import JobDispatch.Proofs.Attempts
import JobDispatch.Proofs.Calls
import JobDispatch.Proofs.Closed
import JobDispatch.Proofs.Origin

namespace JobDispatch

variable {X : Extras} {σ α β : Type}

def StopsAtFailure (ss : List (Step X)) (r : Except JobError α) : Prop :=
  ∀ ⦃before side err log after⦄, ss = before ++ .attempted side (.error err) log :: after →
    after = [] ∧ r = .error (.forge err)

def Step.IsAttempt (st : Step X) : Prop := ∃ side outcome log, st = .attempted side outcome log

lemma Reaches.stops {κ κ' : Contacts} {side : Side} {ss : List (Step X)}
    {x : Except ForgeError Side} {r : Except JobError α} (h : Reaches κ side ss x κ')
    (hr : ∀ err, x = .error err → r = .error (.forge err)) : StopsAtFailure ss r := by
  intro before other err log after hs
  cases h with
  | connected => simp at hs
  | connects =>
    cases before with
    | nil => simp at hs
    | cons st before => simp at hs
  | fails =>
    cases before with
    | nil =>
      cases hs
      exact ⟨rfl, hr _ rfl⟩
    | cons st before => simp at hs

lemma Reaches.ok_of_mem {κ κ' : Contacts} {side kind other : Side} {ss : List (Step X)}
    {outcome : Except ForgeError Side} {log : List Log.Record}
    (h : Reaches κ side ss (.ok kind) κ') (hm : .attempted other outcome log ∈ ss) :
    outcome = .ok kind := by
  cases h with
  | connected => simp at hm
  | connects =>
    cases List.mem_singleton.mp hm
    rfl

namespace Job

def Stops (j : Job X α) : Prop :=
  ∀ ⦃κ ss r κ'⦄, Program.Path κ j.run ss r κ' → StopsAtFailure ss r

lemma stops_of_eachStep {j : Job X α} (h : EachStep (fun st => ¬ st.IsAttempt) j) : Stops j := by
  rintro κ ss r κ' hp before side err log after rfl
  have hn := h hp _ (List.mem_append_right before (List.mem_cons_self ..))
  exact absurd ⟨side, .error err, log, rfl⟩ hn

lemma stops_pure (a : α) : Stops (pure a : Job X α) := stops_of_eachStep (eachStep_pure a)

lemma stops_fail (err : JobError) : Stops (fail err : Job X α) :=
  stops_of_eachStep (eachStep_fail err)

lemma stops_log (rec : Log.Record) : Stops (log rec : Job X Unit) :=
  stops_of_eachStep (eachStep_log (by simp [Step.IsAttempt]))

lemma stops_tell (x : Logged α) : Stops (tell x : Job X α) :=
  stops_of_eachStep (eachStep_tell (by simp [Step.IsAttempt]))

lemma stops_askPackaging (call : PackagingCall) :
    Stops (askPackaging call : Job X call.Result) :=
  stops_of_eachStep (eachStep_askPackaging (by simp [Step.IsAttempt]))

lemma stops_reach (side : Side) : Stops (reach side : Job X Side) := by
  intro κ ss r κ' hp
  obtain ⟨x, hr, rfl⟩ := path_reach.mp hp
  exact hr.stops fun err hx => by rw [hx, Except.mapError]

lemma stops_askForge (side : Side) (call : ForgeCall) :
    Stops (askForge side call : Job X call.Result) := by
  intro κ ss r κ' hp
  rcases path_askForge.mp hp with ⟨err, hr, rfl⟩ | ⟨kind, rs, x, log, hr, rfl, rfl⟩
  · exact hr.stops fun err' hx => by rw [Except.error.inj hx]
  · -- The side has been reached by then, so that no attempt has failed.
    intro before other err log' after hs
    have hm : .attempted other (.error err) log' ∈ rs ++ [(.askedForge side call x log : Step X)] :=
      hs ▸ List.mem_append_right _ (List.mem_cons_self ..)
    rcases List.mem_append.mp hm with hm | hm
    · cases hr.ok_of_mem hm
    · cases List.mem_singleton.mp hm

lemma Stops.bind {j : Job X α} {f : α → Job X β} (hj : Stops j) (hf : ∀ a, Stops (f a)) :
    Stops (j >>= f) := by
  intro κ ss r κ' hp before side err log after hs
  rcases path_bind.mp hp with ⟨e, rfl, h⟩ | ⟨a, κ₁, ss₁, ss₂, rfl, h₁, h₂⟩
  · obtain ⟨rfl, hr⟩ := hj h hs
    exact ⟨rfl, by simpa using hr⟩
  · rcases append_eq_split hs with ⟨rest, rfl⟩ | ⟨since, rfl, rfl⟩
    · obtain ⟨-, hr⟩ := hj h₁ rfl
      cases hr
    · exact hf a h₂ rfl

lemma stops_closed : Closed fun α (j : Job X α) => Stops j where
  done := stops_pure
  fail := stops_fail
  log := stops_log
  tell := stops_tell
  reach := stops_reach
  askForge := stops_askForge
  askPackaging := stops_askPackaging
  bind := Stops.bind

end Job

section Failures

def Step.refusal? : Step X → Option (Side × ForgeError)
  | .attempted side (.error err) _ => some (side, err)
  | _ => none

def refusals (ss : List (Step X)) : List (Side × ForgeError) := ss.filterMap Step.refusal?

lemma refusals_append (ss ss' : List (Step X)) :
    refusals (ss ++ ss') = refusals ss ++ refusals ss' :=
  List.filterMap_append ..

lemma Step.refusal?_eq_some {st : Step X} {side : Side} {err : ForgeError}
    (h : st.refusal? = some (side, err)) : ∃ log, st = .attempted side (.error err) log := by
  cases st with
  | attempted other outcome log =>
    cases outcome with
    | error e =>
      obtain ⟨rfl, rfl⟩ := Prod.mk.inj (Option.some.inj h)
      exact ⟨log, rfl⟩
    | ok kind => cases h
  | _ => cases h

lemma Step.attempt?_eq_some {st : Step X} {side : Side} {outcome : Except ForgeError Side}
    (h : st.attempt? side = some outcome) : ∃ log, st = .attempted side outcome log := by
  cases st with
  | attempted other outcome' log =>
    rw [attempt?] at h
    split_ifs at h with ho
    exact ⟨log, by rw [ho, Option.some.inj h]⟩
  | _ => cases h

lemma mem_attempts {side : Side} {outcome : Except ForgeError Side} {log : List Log.Record}
    {ss : List (Step X)} (h : .attempted side outcome log ∈ ss) : outcome ∈ attempts side ss :=
  List.mem_filterMap.mpr ⟨_, h, by simp [Step.attempt?]⟩

variable {ss : List (Step X)} {r : Except JobError α} {side : Side}

lemma StopsAtFailure.refusals (h : StopsAtFailure ss r) :
    refusals ss = [] ∨ ∃ side err, refusals ss = [(side, err)] ∧ r = .error (.forge err) := by
  cases hr : JobDispatch.refusals ss with
  | nil => exact .inl rfl
  | cons x rest =>
    obtain ⟨side, err⟩ := x
    obtain ⟨before, st, after, rfl, -, hst, hrest⟩ := List.filterMap_eq_cons_iff.mp hr
    obtain ⟨log, rfl⟩ := Step.refusal?_eq_some hst
    obtain ⟨rfl, hresult⟩ := h rfl
    exact .inr ⟨side, err, by rw [← hrest]; rfl, hresult⟩

lemma StopsAtFailure.attempts (h : StopsAtFailure ss r) {err : ForgeError}
    {rest : List (Except ForgeError Side)} (ha : attempts side ss = .error err :: rest) :
    rest = [] := by
  obtain ⟨before, st, after, rfl, -, hst, hrest⟩ := List.filterMap_eq_cons_iff.mp ha
  obtain ⟨log, rfl⟩ := Step.attempt?_eq_some hst
  obtain ⟨rfl, -⟩ := h rfl
  exact hrest.symm

namespace Link.Passes

variable {l l' : Link (StateM σ) (Forge (StateM σ))}

lemma attempts_length_le (hp : l.Passes side ss l') (h : StopsAtFailure ss r) :
    (attempts side ss).length ≤ 1 := by
  cases ha : attempts side ss with
  | nil => simp
  | cons x rest =>
    cases x with
    | error err => simp [h.attempts ha]
    | ok kind =>
      cases hp with
      | connected _ _ hn => simp [hn] at ha
      | unconnected _ hx => simpa using hx (.ok kind) (by simp [ha])
      | connects f _ failures _ _ hc hx =>
        -- The attempts begin with a success, so that none has failed before it.
        cases failures with
        | nil => simp [← ha, hc]
        | cons x failures =>
          obtain ⟨rfl, -⟩ := List.cons_eq_cons.mp (ha.symm.trans hc)
          simpa using hx (.ok kind) (List.mem_cons_self ..)

lemma countP_isOk_le (hp : l.Passes side ss l') : (attempts side ss).countP Except.isOk ≤ 1 := by
  cases hp with
  | connected _ _ hn => simp [hn]
  | unconnected _ hx =>
    have hz : (attempts side ss).countP Except.isOk = 0 :=
      List.countP_eq_zero.mpr fun x hm => by simp [hx x hm]
    omega
  | connects f _ failures _ _ hc hx =>
    have hz : failures.countP Except.isOk = 0 :=
      List.countP_eq_zero.mpr fun x hm => by simp [hx x hm]
    rw [hc, List.countP_append, hz]
    simp

lemma of_failure {before : List (Step X)} {err : ForgeError} {log : List Log.Record}
    (hp : l.Passes side (before ++ [.attempted side (.error err) log]) l') :
    l'.forge? = none ∧ Unasked side before := by
  -- An attempt that succeeds would have to come last instead.
  have hlast : attempts side (before ++ [.attempted side (.error err) log]) =
      attempts side before ++ [.error err] := by
    rw [attempts_append]
    simp [JobDispatch.attempts, Step.attempt?]
  cases hp with
  | connected _ _ hn => simp [hlast] at hn
  | unconnected hf _ hq =>
    exact ⟨hf, fun call answer log hm => hq call answer log (List.mem_append_left _ hm)⟩
  | connects f _ failures _ _ hc =>
    obtain ⟨-, hx⟩ := List.append_inj' (hlast.symm.trans hc) rfl
    cases hx

lemma of_success {kind : Side} {log : List Log.Record} (hp : l.Passes side ss l')
    (hm : .attempted side (.ok kind) log ∈ ss) :
    ∃ f s, (l.connect s).1.value = .ok f ∧ f.kind = kind ∧ l'.forge? = some f ∧
      Served side f ss := by
  have hm := mem_attempts hm
  cases hp with
  | connected _ _ hn => simp [hn] at hm
  | unconnected _ hx => simpa using hx _ hm
  | connects f s failures _ hf hc hx hs =>
    rw [hc] at hm
    rcases List.mem_append.mp hm with hm | hm
    · simpa using hx _ hm
    · exact ⟨f, s, hf, (Except.ok.inj (List.mem_singleton.mp hm)).symm, rfl, hs⟩

end Link.Passes

end Failures

lemma Event.uses_classify {e : Event} {r : Recognized} (hr : e.recognized.value = some r)
    (k : Collaborators X (StateM σ)) (s : σ) :
    (e.classify : Job X (Option Classified)).run.Uses r.side k s := by
  obtain ⟨hp, -⟩ := (Job.tell e.recognized : Job X (Option Recognized)).run.run_path k s
  obtain ⟨-, hv, -⟩ := Job.path_tell.mp hp
  rw [classify, ExceptT.run_bind]
  refine (Program.uses_bind _ _ _ _ _).mpr (.inr ?_)
  rw [hv, hr]
  exact .inl rfl

namespace Turn

def Uses (d : Dispatcher X) (t : Turn X σ) (side : Side) : Prop :=
  (d.dispatch t.message.1 t.message.2).run.Uses side t.collaborators t.state

def refused (d : Dispatcher X) (t : Turn X σ) : Bool := !(refusals (t.steps d)).isEmpty

structure Accounted (d : Dispatcher X) (t : Turn X σ) : Prop where
  attempts_le_one : ∀ side, (attempts side (t.steps d)).length ≤ 1
  attempts_ne_nil_iff : ∀ side,
    attempts side (t.steps d) ≠ [] ↔ (t.collaborators.link side).forge? = none ∧ t.Uses d side
  failure : ∀ side err log, .attempted side (.error err) log ∈ t.steps d →
    (∃ before, t.steps d = before ++ [.attempted side (.error err) log]) ∧
      t.result d = .error (.forge err) ∧ ((t.left d).1.link side).forge? = none
  success : ∀ side kind log, .attempted side (.ok kind) log ∈ t.steps d →
    ∃ f s, ((t.collaborators.link side).connect s).1.value = .ok f ∧ f.kind = kind ∧
      ((t.left d).1.link side).forge? = some f ∧ Served side f (t.steps d)
  needs : d.drops t.message.2 = false → ∀ r, t.message.1.recognized.value = some r →
    t.Uses d r.side
  fetched : ∀ r kind package log, t.message.1.recognized.value = some r → r.trigger ≠ .commit →
    .askedForge r.side (r.configCall kind) (.ok package) log ∈ t.steps d →
    ∀ err log, .attempted .upstream (.error err) log ∉ t.steps d

structure Keeps (d : Dispatcher X) (t : Turn X σ) (side : Side) (f : Forge (StateM σ)) : Prop where
  before : (t.collaborators.link side).forge? = some f
  attempts : attempts side (t.steps d) = []
  served : Served side f (t.steps d)
  after : ((t.left d).1.link side).forge? = some f

variable {d : Dispatcher X} (t : Turn X σ)

lemma stops (hd : Registry.standard.value = .ok d.registry) :
    StopsAtFailure (t.steps d) (t.result d) := by
  obtain ⟨hp, -⟩ := (d.dispatch t.message.1 t.message.2).run.run_path t.collaborators t.state
  exact Job.stops_closed.dispatch hd _ _ hp

lemma passes (d : Dispatcher X) (side : Side) :
    (t.collaborators.link side).Passes side (t.steps d) ((t.left d).1.link side) :=
  (d.dispatch t.message.1 t.message.2).run.run_passes t.collaborators t.state side

lemma keeps {side : Side} {f : Forge (StateM σ)}
    (hf : (t.collaborators.link side).forge? = some f) : t.Keeps d side f := by
  have hp := t.passes d side
  generalize hl : (t.left d).1.link side = l at hp
  cases hp with
  | connected f' hf' ha hs =>
    obtain rfl : f' = f := Option.some.inj (hf'.symm.trans hf)
    exact ⟨hf, ha, hs, hl ▸ hf⟩
  | unconnected hn => simp [hf] at hn
  | connects _ _ _ hn => simp [hf] at hn

lemma forge?_left_of_not_uses {side : Side} (hf : (t.collaborators.link side).forge? = none)
    (hn : ¬ t.Uses d side) : ((t.left d).1.link side).forge? = none := by
  have ha : attempts side (t.steps d) = [] := by
    by_contra ha
    exact hn (((d.dispatch t.message.1 t.message.2).run.attempts_ne_nil_iff _ _ side).mp ha).2
  have hp := t.passes d side
  generalize (t.left d).1.link side = l at hp
  cases hp with
  | connected _ hf' => simp [hf] at hf'
  | unconnected hn => exact hn
  | connects _ _ _ _ _ hc => simp [ha] at hc

lemma uses_side (ht : d.drops t.message.2 = false) {r : Recognized}
    (hr : t.message.1.recognized.value = some r) : t.Uses d r.side := by
  rw [Uses, Dispatcher.dispatch, ht, if_neg Bool.false_ne_true, ExceptT.run_bind]
  exact (Program.uses_bind _ _ _ _ _).mpr (.inl (Event.uses_classify hr _ _))

lemma accounted (hd : Registry.standard.value = .ok d.registry) (t : Turn X σ) :
    t.Accounted d where
  attempts_le_one side := (t.passes d side).attempts_length_le (t.stops hd)
  attempts_ne_nil_iff side :=
    (d.dispatch t.message.1 t.message.2).run.attempts_ne_nil_iff t.collaborators t.state side
  failure side err log hm := by
    obtain ⟨before, after, hs⟩ := List.append_of_mem hm
    obtain ⟨rfl, hr⟩ := t.stops hd hs
    have hp := t.passes d side
    rw [hs] at hp
    exact ⟨⟨before, hs⟩, hr, hp.of_failure.1⟩
  success side kind log hm := (t.passes d side).of_success hm
  needs ht r hr := t.uses_side ht hr
  fetched r kind package log hr ht hm err log' hf := by
    have hside : r.side = .upstream := by cases r <;> first | rfl | exact absurd rfl ht
    rw [hside] at hm
    obtain ⟨before, after, hs⟩ := List.append_of_mem hf
    obtain ⟨rfl, -⟩ := t.stops hd hs
    have hp := t.passes d .upstream
    rw [hs] at hp hm
    rcases List.mem_append.mp hm with hm | hm
    · exact hp.of_failure.2 _ _ _ hm
    · cases List.mem_singleton.mp hm

lemma length_refusals (hd : Registry.standard.value = .ok d.registry) (ts : List (Turn X σ)) :
    (refusals (ts.flatMap (Turn.steps d))).length = ts.countP (Turn.refused d) := by
  induction ts with
  | nil => rfl
  | cons t ts ih =>
    have ht : (refusals (t.steps d)).length = if t.refused d = true then 1 else 0 := by
      rcases (t.stops hd).refusals with hr | ⟨side, err, hr, -⟩ <;> simp [refused, hr]
    rw [List.flatMap_cons, refusals_append, List.length_append, List.countP_cons, ht, ih,
      Nat.add_comm]

end Turn

namespace Dispatcher

variable {d : Dispatcher X} {ms : List (Event × Option String)} {k : Collaborators X (StateM σ)}
  {s : σ} {side : Side}

lemma turns_keep {f : Forge (StateM σ)} (hf : (k.link side).forge? = some f) :
    ∀ t ∈ d.turns ms k s, t.Keeps d side f := by
  induction ms generalizing k s with
  | nil => simp [turns]
  | cons m ms ih =>
    let t : Turn X σ := ⟨m, k, s⟩
    have ht : t.Keeps d side f := t.keeps hf
    exact List.forall_mem_cons.mpr ⟨ht, ih ht.after⟩

lemma turns_unused {between rest : List (Turn X σ)} {u : Turn X σ}
    (h : d.turns ms k s = between ++ u :: rest) (hf : (k.link side).forge? = none)
    (hn : ∀ v ∈ between, ¬ v.Uses d side) : (u.collaborators.link side).forge? = none := by
  induction between generalizing ms k s with
  | nil =>
    cases ms with
    | nil => simp [turns] at h
    | cons m ms =>
      obtain ⟨rfl, -⟩ := List.cons_eq_cons.mp h
      exact hf
  | cons v between ih =>
    cases ms with
    | nil => simp [turns] at h
    | cons m ms =>
      obtain ⟨rfl, -⟩ := List.cons_eq_cons.mp h
      obtain ⟨hv, hn⟩ := List.forall_mem_cons.mp hn
      exact ih (List.cons_eq_cons.mp h).2 (Turn.forge?_left_of_not_uses _ hf hv) hn

/-- Whatever the connectors do, a turn attempts a side at most once, an attempt that fails ends its
turn, and a forge that was connected is kept. -/
theorem dispatch_connections (hd : Registry.standard.value = .ok d.registry)
    (ms : List (Event × Option String)) (k : Collaborators X (StateM σ)) (s : σ) :
    let ts := d.turns ms k s
    (∀ t ∈ ts, t.Accounted d) ∧
      (∀ side earlier t later, ts = earlier ++ t :: later →
        (∀ f, ((t.left d).1.link side).forge? = some f → ∀ u ∈ later, u.Keeps d side f) ∧
        (((t.left d).1.link side).forge? = none → ∀ between u rest, later = between ++ u :: rest →
          (∀ v ∈ between, ¬ v.Uses d side) → u.Uses d side →
          (attempts side (u.steps d)).length = 1)) ∧
      (∀ side, (attempts side (ts.flatMap (Turn.steps d))).countP Except.isOk ≤ 1) ∧
      (refusals (ts.flatMap (Turn.steps d))).length = ts.countP (Turn.refused d) ∧
      ∀ t ∈ ts, t.refused d = true → t.failed d = true := by
  intro ts
  refine ⟨fun t _ => t.accounted hd, ?_, fun side => (d.turns_passes ms k s side).countP_isOk_le,
    Turn.length_refusals hd ts, ?_⟩
  · intro side earlier t later hs
    obtain ⟨rest, rfl⟩ := d.turns_split ms k s hs
    refine ⟨fun f hf => turns_keep hf, fun hf between u rest' hs' hn hu => ?_⟩
    have ha := u.accounted hd
    have hne := (ha.attempts_ne_nil_iff side).mpr ⟨turns_unused hs' hf hn, hu⟩
    exact le_antisymm (ha.attempts_le_one side) (List.length_pos_iff.mpr hne)
  · intro t _ hr
    rcases (t.stops hd).refusals with hn | ⟨side, err, -, he⟩
    · simp [Turn.refused, hn] at hr
    · simp [Turn.failed, he]

def unsteady : Collaborators Extras.none (StateM Nat) where
  upstream.connect := fun n =>
    (⟨if n = 0 then .error (.connection .upstream "timed out")
      else .ok (.granting builtAndProposed .upstream), []⟩, n + 1)
  downstream := .ready (.granting builtAndProposed .downstream)
  packaging := .granting
  act := nofun

theorem dispatch_connections_unsteady :
    let d : Dispatcher Extras.none := standard
    let ts := d.turns [(published, none), (published, none), (published, none)] unsteady 0
    Registry.standard.value = .ok d.registry ∧ (∀ t ∈ ts, t.Accounted d) ∧
      ts.map (fun t => attempts .upstream (t.steps d)) =
        [[.error (.connection .upstream "timed out")], [.ok .upstream], []] ∧
      (refusals (ts.flatMap (Turn.steps d))).length = 1 := by
  intro d ts
  have hd : Registry.standard.value = .ok d.registry := Registry.standard_value
  obtain ⟨haccounted, -, -, hrefusals, -⟩ :=
    dispatch_connections hd [(published, none), (published, none), (published, none)] unsteady 0
  have hrefused : ts.countP (Turn.refused d) = 1 := by decide +kernel
  exact ⟨hd, haccounted, by decide +kernel, hrefusals.trans hrefused⟩

def unconfigured : Collaborators Extras.none (StateM Unit) where
  upstream.connect := pure ⟨.ok ⟨.upstream, fun
    | .packageConfig p ref => pure ⟨.error (.configNotFound p.path ref), []⟩
    | .taggedCommit p tag => pure ⟨.error (.tagNotFound p.path tag), []⟩
    | .comment .. => pure ⟨.ok (), []⟩⟩, []⟩
  downstream := .ready (.granting {} .downstream)
  packaging := .granting
  act := nofun

theorem failed_without_refusal :
    let d : Dispatcher Extras.none := standard
    let ts := d.turns [(published, none)] unconfigured ()
    ts.countP (Turn.failed d) = 1 ∧ refusals (ts.flatMap (Turn.steps d)) = [] := by
  decide +kernel

end Dispatcher

end JobDispatch
