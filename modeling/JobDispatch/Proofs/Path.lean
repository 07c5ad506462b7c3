import JobDispatch.Proofs.Run

/-! Paths of programs: the steps that a program can take, each with an answer it can get. Which
forge is connected decides what an answer can be, so a path leads from the contacts before it to
those after it. Each run follows a path. -/

namespace JobDispatch

variable {X : Extras} {α β : Type}

lemma ok_eq_mapError {ε ε' : Type} {x : Except ε α} {f : ε → ε'} {a : α} :
    .ok a = x.mapError f ↔ x = .ok a := by
  cases x <;> simp [Except.mapError, eq_comm]

lemma error_eq_mapError {ε ε' : Type} {x : Except ε α} {f : ε → ε'} {err : ε'} :
    .error err = x.mapError f ↔ ∃ e, x = .error e ∧ err = f e := by
  cases x <;> simp [Except.mapError]

@[simp] lemma isOk_ok {ε : Type} (a : α) : (Except.ok a : Except ε α).isOk = true := rfl

@[simp] lemma isOk_error {ε : Type} (err : ε) : (Except.error err : Except ε α).isOk = false := rfl

inductive Step (X : Extras)
  | logged (r : Log.Record)
  | attempted (side : Side) (outcome : Except ForgeError Side) (log : List Log.Record)
  | askedForge (side : Side) (call : ForgeCall) (answer : Except ForgeError call.Result)
      (log : List Log.Record)
  | askedPackaging (call : PackagingCall) (answer : Except PackagingError call.Result)
      (log : List Log.Record)
  | acted (a : X.Act) (answer : X.Answer a)

def Step.entries : Step X → List (Entry X)
  | .logged r => [.logged r]
  | .attempted side outcome log => .attempted side (outcome.map fun _ => ()) :: log.map .logged
  | .askedForge side call _ log => .askedForge side call :: log.map .logged
  | .askedPackaging call _ log => .askedPackaging call :: log.map .logged
  | .acted a _ => [.acted a]

abbrev Contacts := Side → Option Side

/-- To reach a side takes no step once it is connected, and else one attempt. -/
inductive Reaches : Contacts → Side → List (Step X) → Except ForgeError Side → Contacts → Prop
  | connected {κ : Contacts} {side kind : Side} :
      κ side = some kind → Reaches κ side [] (.ok kind) κ
  | connects {κ : Contacts} {side : Side} (kind : Side) (log : List Log.Record) : κ side = none →
      Reaches κ side [.attempted side (.ok kind) log] (.ok kind)
        (Function.update κ side (some kind))
  | fails {κ : Contacts} {side : Side} (err : ForgeError) (log : List Log.Record) : κ side = none →
      Reaches κ side [.attempted side (.error err) log] (.error err) κ

namespace Reaches

variable {κ κ' : Contacts} {side kind : Side} {ss : List (Step X)} {x : Except ForgeError Side}

lemma contact (h : Reaches κ side ss (.ok kind) κ') : κ' side = some kind := by
  cases h with
  | connected h => exact h
  | connects => exact Function.update_self ..

lemma of_contact (hκ : κ side = some kind) (h : Reaches κ side ss x κ') :
    ss = [] ∧ x = .ok kind ∧ κ' = κ := by
  cases h with
  | connected h => exact ⟨rfl, by rw [Option.some.inj (h.symm.trans hκ)], rfl⟩
  | connects _ _ h => simp [hκ] at h
  | fails _ _ h => simp [hκ] at h

lemma attempted {s : Step X} (h : Reaches κ side ss x κ') (hs : s ∈ ss) :
    ∃ outcome log, s = .attempted side outcome log := by
  cases h with
  | connected => simp at hs
  | connects kind log => exact ⟨_, log, List.mem_singleton.mp hs⟩
  | fails err log => exact ⟨_, log, List.mem_singleton.mp hs⟩

end Reaches

namespace Program

inductive Path : Contacts → Program X α → List (Step X) → α → Contacts → Prop
  | done {κ : Contacts} (a : α) : Path κ (.done a) [] a κ
  | log {κ κ' : Contacts} {r : Log.Record} {next : Program X α} {ss : List (Step X)} {a : α} :
      Path κ next ss a κ' → Path κ (.log r next) (.logged r :: ss) a κ'
  | reach {κ κ₁ κ' : Contacts} {side : Side} {next : Except ForgeError Side → Program X α}
      {rs ss : List (Step X)} {x : Except ForgeError Side} {a : α} :
      Reaches κ side rs x κ₁ → Path κ₁ (next x) ss a κ' →
      Path κ (.reach side next) (rs ++ ss) a κ'
  | unreached {κ κ₁ κ' : Contacts} {side : Side} {call : ForgeCall}
      {next : Except ForgeError call.Result → Program X α} {rs ss : List (Step X)}
      {err : ForgeError} {a : α} :
      Reaches κ side rs (.error err) κ₁ → Path κ₁ (next (.error err)) ss a κ' →
      Path κ (.askForge side call next) (rs ++ ss) a κ'
  | askForge {κ κ₁ κ' : Contacts} {side kind : Side} {call : ForgeCall}
      {next : Except ForgeError call.Result → Program X α} {rs ss : List (Step X)}
      (x : Except ForgeError call.Result) (log : List Log.Record) {a : α} :
      Reaches κ side rs (.ok kind) κ₁ → Path κ₁ (next x) ss a κ' →
      Path κ (.askForge side call next) (rs ++ .askedForge side call x log :: ss) a κ'
  | askPackaging {κ κ' : Contacts} {call : PackagingCall}
      {next : Except PackagingError call.Result → Program X α} {ss : List (Step X)}
      (x : Except PackagingError call.Result) (log : List Log.Record) {a : α} :
      Path κ (next x) ss a κ' →
      Path κ (.askPackaging call next) (.askedPackaging call x log :: ss) a κ'
  | act {κ κ' : Contacts} {act : X.Act} {next : X.Answer act → Program X α} {ss : List (Step X)}
      (x : X.Answer act) {a : α} :
      Path κ (next x) ss a κ' → Path κ (.act act next) (.acted act x :: ss) a κ'

lemma path_bind {κ κ' : Contacts} {p : Program X α} {f : α → Program X β} {ss : List (Step X)}
    {b : β} : Path κ (p.bind f) ss b κ' ↔
      ∃ a κ₁ ss₁ ss₂, ss = ss₁ ++ ss₂ ∧ Path κ p ss₁ a κ₁ ∧ Path κ₁ (f a) ss₂ b κ' := by
  constructor
  · intro h
    induction p generalizing κ ss with
    | done a => exact ⟨a, κ, [], ss, rfl, .done a, h⟩
    | log r next ih =>
      cases h with
      | log h =>
        obtain ⟨a, κ₁, ss₁, ss₂, rfl, h₁, h₂⟩ := ih h
        exact ⟨a, κ₁, _, ss₂, rfl, .log h₁, h₂⟩
    | reach side next ih =>
      cases h with
      | reach hr h =>
        obtain ⟨a, κ₁, ss₁, ss₂, rfl, h₁, h₂⟩ := ih _ h
        exact ⟨a, κ₁, _, ss₂, (List.append_assoc ..).symm, .reach hr h₁, h₂⟩
    | askForge side call next ih =>
      cases h with
      | unreached hr h =>
        obtain ⟨a, κ₁, ss₁, ss₂, rfl, h₁, h₂⟩ := ih _ h
        exact ⟨a, κ₁, _, ss₂, (List.append_assoc ..).symm, .unreached hr h₁, h₂⟩
      | askForge x log hr h =>
        obtain ⟨a, κ₁, ss₁, ss₂, rfl, h₁, h₂⟩ := ih _ h
        exact ⟨a, κ₁, _, ss₂, by simp, .askForge x log hr h₁, h₂⟩
    | askPackaging call next ih =>
      cases h with
      | askPackaging x log h =>
        obtain ⟨a, κ₁, ss₁, ss₂, rfl, h₁, h₂⟩ := ih _ h
        exact ⟨a, κ₁, _, ss₂, rfl, .askPackaging x log h₁, h₂⟩
    | act act next ih =>
      cases h with
      | act x h =>
        obtain ⟨a, κ₁, ss₁, ss₂, rfl, h₁, h₂⟩ := ih _ h
        exact ⟨a, κ₁, _, ss₂, rfl, .act x h₁, h₂⟩
  · rintro ⟨a, κ₁, ss₁, ss₂, rfl, h₁, h₂⟩
    induction h₁ with
    | done a => exact h₂
    | log _ ih => exact .log (ih h₂)
    | reach hr _ ih => simpa using .reach hr (ih h₂)
    | unreached hr _ ih => simpa using .unreached hr (ih h₂)
    | askForge x log hr _ ih => simpa using .askForge x log hr (ih h₂)
    | askPackaging x log _ ih => exact .askPackaging x log (ih h₂)
    | act x _ ih => exact .act x (ih h₂)

lemma path_done {κ κ' : Contacts} {a b : α} {ss : List (Step X)} :
    Path κ (.done a) ss b κ' ↔ ss = [] ∧ b = a ∧ κ' = κ := by
  constructor
  · rintro ⟨⟩
    exact ⟨rfl, rfl, rfl⟩
  · rintro ⟨rfl, rfl, rfl⟩
    exact .done b

lemma path_write {κ κ' : Contacts} {rs : List Log.Record} {ss : List (Step X)} {u : Unit} :
    Path κ (write rs) ss u κ' ↔ ss = rs.map .logged ∧ κ' = κ := by
  induction rs generalizing ss with
  | nil => simp [write, path_done]
  | cons r rs ih =>
    constructor
    · rintro ⟨⟩
      rename_i h
      obtain ⟨rfl, rfl⟩ := ih.mp h
      exact ⟨rfl, rfl⟩
    · rintro ⟨rfl, rfl⟩
      exact .log (ih.mpr ⟨rfl, rfl⟩)

end Program

namespace Job

open Program

variable {κ κ' : Contacts} {ss : List (Step X)}

lemma path_pure {a : α} {r : Except JobError α} :
    Path κ (pure a : Job X α).run ss r κ' ↔ ss = [] ∧ r = .ok a ∧ κ' = κ := path_done

lemma path_fail {err : JobError} {r : Except JobError α} :
    Path κ (fail err : Job X α).run ss r κ' ↔ ss = [] ∧ r = .error err ∧ κ' = κ := path_done

lemma path_bind {j : Job X α} {f : α → Job X β} {r : Except JobError β} :
    Path κ (j >>= f).run ss r κ' ↔
      (∃ err, r = .error err ∧ Path κ j.run ss (.error err) κ') ∨
        ∃ a κ₁ ss₁ ss₂, ss = ss₁ ++ ss₂ ∧ Path κ j.run ss₁ (.ok a) κ₁ ∧
          Path κ₁ (f a).run ss₂ r κ' := by
  rw [ExceptT.run_bind, bind_eq, Program.path_bind]
  constructor
  · rintro ⟨x, κ₁, ss₁, ss₂, rfl, h₁, h₂⟩
    cases x with
    | error err =>
      obtain ⟨rfl, rfl, rfl⟩ := path_done.mp h₂
      exact .inl ⟨err, rfl, by simpa using h₁⟩
    | ok a => exact .inr ⟨a, κ₁, ss₁, ss₂, rfl, h₁, h₂⟩
  · rintro (⟨err, rfl, h⟩ | ⟨a, κ₁, ss₁, ss₂, rfl, h₁, h₂⟩)
    · exact ⟨.error err, κ', ss, [], by simp, h, .done _⟩
    · exact ⟨.ok a, κ₁, ss₁, ss₂, rfl, h₁, h₂⟩

lemma path_log {rec : Log.Record} {r : Except JobError Unit} :
    Path κ (log rec : Job X Unit).run ss r κ' ↔ ss = [.logged rec] ∧ r = .ok () ∧ κ' = κ := by
  constructor
  · rintro ⟨⟩
    rename_i h
    obtain ⟨rfl, rfl, rfl⟩ := path_done.mp h
    exact ⟨rfl, rfl, rfl⟩
  · rintro ⟨rfl, rfl, rfl⟩
    exact .log (.done _)

lemma path_tell {x : Logged α} {r : Except JobError α} :
    Path κ (tell x : Job X α).run ss r κ' ↔
      ss = x.log.map .logged ∧ r = .ok x.value ∧ κ' = κ := by
  change Path κ (((write x.log).bind fun _ => .done x.value).bind fun a => .done (.ok a)) ss r
    κ' ↔ _
  simp only [Program.path_bind, path_write, path_done]
  constructor
  · rintro ⟨_, _, _, _, rfl, ⟨_, _, _, _, rfl, ⟨rfl, rfl⟩, rfl, rfl, rfl⟩, rfl, rfl, rfl⟩
    exact ⟨by simp, rfl, rfl⟩
  · rintro ⟨rfl, rfl, rfl⟩
    exact ⟨x.value, κ', _, [], (List.append_nil _).symm,
      ⟨(), κ', _, [], (List.append_nil _).symm, ⟨rfl, rfl⟩, rfl, rfl, rfl⟩, rfl, rfl, rfl⟩

lemma path_reach {side : Side} {r : Except JobError Side} :
    Path κ (reach side : Job X Side).run ss r κ' ↔
      ∃ x, Reaches κ side ss x κ' ∧ r = x.mapError .forge := by
  constructor
  · rintro ⟨⟩
    rename_i x hr h
    obtain ⟨rfl, rfl, rfl⟩ := path_done.mp h
    exact ⟨x, by simpa using hr, rfl⟩
  · rintro ⟨x, hr, rfl⟩
    rw [← List.append_nil ss]
    exact .reach hr (.done _)

lemma path_askForge {side : Side} {call : ForgeCall} {r : Except JobError call.Result} :
    Path κ (askForge side call : Job X call.Result).run ss r κ' ↔
      (∃ err, Reaches κ side ss (.error err) κ' ∧ r = .error (.forge err)) ∨
        ∃ kind rs x log, Reaches κ side rs (.ok kind) κ' ∧
          ss = rs ++ [.askedForge side call x log] ∧ r = x.mapError .forge := by
  constructor
  · intro h
    cases h with
    | unreached hr h =>
      obtain ⟨rfl, rfl, rfl⟩ := path_done.mp h
      exact .inl ⟨_, by simpa using hr, rfl⟩
    | askForge x log hr h =>
      obtain ⟨rfl, rfl, rfl⟩ := path_done.mp h
      exact .inr ⟨_, _, x, log, hr, rfl, rfl⟩
  · rintro (⟨err, hr, rfl⟩ | ⟨kind, rs, x, log, hr, rfl, rfl⟩)
    · rw [← List.append_nil ss]
      exact .unreached hr (.done _)
    · exact .askForge x log hr (.done _)

lemma path_askForge_of_contact {side kind : Side} {call : ForgeCall}
    {r : Except JobError call.Result} (hκ : κ side = some kind)
    (h : Path κ (askForge side call : Job X call.Result).run ss r κ') :
    κ' = κ ∧ ∃ x log, ss = [.askedForge side call x log] ∧ r = x.mapError .forge := by
  rcases path_askForge.mp h with ⟨err, hr, rfl⟩ | ⟨_, rs, x, log, hr, rfl, rfl⟩
  · obtain ⟨_, hx, _⟩ := hr.of_contact hκ
    simp at hx
  · obtain ⟨rfl, _, rfl⟩ := hr.of_contact hκ
    exact ⟨rfl, x, log, rfl, rfl⟩

lemma path_askPackaging {call : PackagingCall} {r : Except JobError call.Result} :
    Path κ (askPackaging call : Job X call.Result).run ss r κ' ↔
      ∃ x log, ss = [.askedPackaging call x log] ∧ r = x.mapError .packaging ∧ κ' = κ := by
  constructor
  · intro h
    cases h with
    | askPackaging x log h =>
      obtain ⟨rfl, rfl, rfl⟩ := path_done.mp h
      exact ⟨x, log, rfl, rfl, rfl⟩
  · rintro ⟨x, log, rfl, rfl, rfl⟩
    exact .askPackaging x log (.done _)

lemma path_tell_bind {β : Type} {x : Logged α} {f : α → Job X β} {r : Except JobError β} :
    Path κ (tell x >>= f).run ss r κ' ↔
      ∃ ss', ss = x.log.map .logged ++ ss' ∧ Path κ (f x.value).run ss' r κ' := by
  rw [path_bind]
  constructor
  · rintro (⟨err, -, ht⟩ | ⟨a, _, _, ss', rfl, ht, h⟩)
    · simp [path_tell] at ht
    · obtain ⟨rfl, ha, rfl⟩ := path_tell.mp ht
      obtain rfl := Except.ok.inj ha
      exact ⟨ss', rfl, h⟩
  · rintro ⟨ss', rfl, h⟩
    exact .inr ⟨x.value, κ, _, ss', rfl, path_tell.mpr ⟨rfl, rfl, rfl⟩, h⟩

lemma path_log_bind {rec : Log.Record} {f : Unit → Job X α} {r : Except JobError α} :
    Path κ (log rec >>= f).run ss r κ' ↔
      ∃ ss', ss = .logged rec :: ss' ∧ Path κ (f ()).run ss' r κ' := by
  rw [path_bind]
  constructor
  · rintro (⟨err, -, hl⟩ | ⟨_, _, _, ss', rfl, hl, h⟩)
    · simp [path_log] at hl
    · obtain ⟨rfl, -, rfl⟩ := path_log.mp hl
      exact ⟨ss', rfl, h⟩
  · rintro ⟨ss', rfl, h⟩
    exact .inr ⟨(), κ, [_], ss', rfl, path_log.mpr ⟨rfl, rfl, rfl⟩, h⟩

lemma path_reach_bind {side : Side} {f : Side → Job X α} {r : Except JobError α} :
    Path κ (reach side >>= f).run ss r κ' ↔
      (∃ err, Reaches κ side ss (.error err) κ' ∧ r = .error (.forge err)) ∨
        ∃ kind κ₁ rs ss', ss = rs ++ ss' ∧ Reaches κ side rs (.ok kind) κ₁ ∧
          Path κ₁ (f kind).run ss' r κ' := by
  simp only [path_bind, path_reach]
  constructor
  · rintro (⟨_, rfl, x, hr, hx⟩ | ⟨kind, κ₁, rs, ss', rfl, ⟨x, hr, hx⟩, h⟩)
    · obtain ⟨err, rfl, rfl⟩ := error_eq_mapError.mp hx
      exact .inl ⟨err, hr, rfl⟩
    · obtain rfl := ok_eq_mapError.mp hx
      exact .inr ⟨kind, κ₁, rs, ss', rfl, hr, h⟩
  · rintro (⟨err, hr, rfl⟩ | ⟨kind, κ₁, rs, ss', rfl, hr, h⟩)
    · exact .inl ⟨_, rfl, _, hr, rfl⟩
    · exact .inr ⟨kind, κ₁, rs, ss', rfl, ⟨_, hr, rfl⟩, h⟩

lemma path_askPackaging_bind {call : PackagingCall} {f : call.Result → Job X α}
    {r : Except JobError α} :
    Path κ (askPackaging call >>= f).run ss r κ' ↔
      (∃ err log, ss = [.askedPackaging call (.error err) log] ∧ r = .error (.packaging err) ∧
          κ' = κ) ∨
        ∃ a log ss', ss = .askedPackaging call (.ok a) log :: ss' ∧
          Path κ (f a).run ss' r κ' := by
  simp only [path_bind, path_askPackaging]
  constructor
  · rintro (⟨_, rfl, x, log, rfl, hx, rfl⟩ | ⟨a, _, _, ss', rfl, ⟨x, log, rfl, hx, rfl⟩, h⟩)
    · obtain ⟨err, rfl, rfl⟩ := error_eq_mapError.mp hx
      exact .inl ⟨err, log, rfl, rfl, rfl⟩
    · obtain rfl := ok_eq_mapError.mp hx
      exact .inr ⟨a, log, ss', rfl, h⟩
  · rintro (⟨err, log, rfl, rfl, rfl⟩ | ⟨a, log, ss', rfl, h⟩)
    · exact .inl ⟨_, rfl, .error err, log, rfl, rfl, rfl⟩
    · exact .inr ⟨a, κ, [_], ss', rfl, ⟨.ok a, log, rfl, rfl, rfl⟩, h⟩

lemma path_askForge_bind_of_contact {side kind : Side} {call : ForgeCall}
    {f : call.Result → Job X α} {r : Except JobError α} (hκ : κ side = some kind)
    (h : Path κ (askForge side call >>= f).run ss r κ') :
    (∃ err log, ss = [.askedForge side call (.error err) log] ∧ r = .error (.forge err) ∧
        κ' = κ) ∨
      ∃ a log ss', ss = .askedForge side call (.ok a) log :: ss' ∧
        Path κ (f a).run ss' r κ' := by
  rcases path_bind.mp h with ⟨_, rfl, h'⟩ | ⟨a, _, _, ss', rfl, h', hf⟩
  · obtain ⟨rfl, x, log, rfl, hx⟩ := path_askForge_of_contact hκ h'
    obtain ⟨err, rfl, rfl⟩ := error_eq_mapError.mp hx
    exact .inl ⟨err, log, rfl, rfl, rfl⟩
  · obtain ⟨rfl, x, log, rfl, hx⟩ := path_askForge_of_contact hκ h'
    obtain rfl := ok_eq_mapError.mp hx
    exact .inr ⟨a, log, ss', rfl, hf⟩

def EachStep (P : Step X → Prop) (j : Job X α) : Prop :=
  ∀ ⦃κ ss r κ'⦄, Path κ j.run ss r κ' → ∀ s ∈ ss, P s

variable {P Q : Step X → Prop}

lemma EachStep.imp {j : Job X α} (hj : EachStep P j) (hPQ : ∀ s, P s → Q s) : EachStep Q j :=
  fun _ _ _ _ h s hs => hPQ s (hj h s hs)

lemma eachStep_pure (a : α) : EachStep P (pure a : Job X α) := by
  intro κ ss r κ' h
  obtain ⟨rfl, -, -⟩ := path_pure.mp h
  simp

lemma eachStep_fail (err : JobError) : EachStep P (fail err : Job X α) := by
  intro κ ss r κ' h
  obtain ⟨rfl, -, -⟩ := path_fail.mp h
  simp

lemma EachStep.bind {j : Job X α} {f : α → Job X β} (hj : EachStep P j)
    (hf : ∀ a, EachStep P (f a)) : EachStep P (j >>= f) := by
  intro κ ss r κ' h s hs
  rw [path_bind] at h
  rcases h with ⟨err, rfl, h⟩ | ⟨a, κ₁, ss₁, ss₂, rfl, h₁, h₂⟩
  · exact hj h s hs
  · rcases List.mem_append.mp hs with hs | hs
    · exact hj h₁ s hs
    · exact hf a h₂ s hs

lemma eachStep_log {rec : Log.Record} (hP : P (.logged rec)) :
    EachStep P (log rec : Job X Unit) := by
  intro κ ss r κ' h
  obtain ⟨rfl, -, -⟩ := path_log.mp h
  simpa using hP

lemma eachStep_tell {x : Logged α} (hP : ∀ rec ∈ x.log, P (.logged rec)) :
    EachStep P (tell x : Job X α) := by
  intro κ ss r κ' h
  obtain ⟨rfl, -, -⟩ := path_tell.mp h
  simpa using hP

lemma eachStep_reach {side : Side} (hP : ∀ outcome log, P (.attempted side outcome log)) :
    EachStep P (reach side : Job X Side) := by
  intro κ ss r κ' h s hs
  obtain ⟨x, hr, -⟩ := path_reach.mp h
  obtain ⟨outcome, log, rfl⟩ := hr.attempted hs
  exact hP outcome log

lemma eachStep_askForge {side : Side} {call : ForgeCall}
    (hP : ∀ outcome log, P (.attempted side outcome log))
    (hQ : ∀ answer log, P (.askedForge side call answer log)) :
    EachStep P (askForge side call : Job X call.Result) := by
  intro κ ss r κ' h s hs
  rcases path_askForge.mp h with ⟨err, hr, -⟩ | ⟨kind, rs, x, log, hr, rfl, -⟩
  · obtain ⟨outcome, log, rfl⟩ := hr.attempted hs
    exact hP outcome log
  · rcases List.mem_append.mp hs with hs | hs
    · obtain ⟨outcome, log, rfl⟩ := hr.attempted hs
      exact hP outcome log
    · obtain rfl := List.mem_singleton.mp hs
      exact hQ x log

lemma eachStep_askPackaging {call : PackagingCall}
    (hP : ∀ answer log, P (.askedPackaging call answer log)) :
    EachStep P (askPackaging call : Job X call.Result) := by
  intro κ ss r κ' h
  obtain ⟨x, log, rfl, -, -⟩ := path_askPackaging.mp h
  simpa using hP x log

end Job

section Runs

variable {σ : Type}

def Collaborators.contacts (k : Collaborators X (StateM σ)) : Contacts :=
  fun side => (k.link side).forge?.map Forge.kind

lemma Collaborators.link_setLink (k : Collaborators X (StateM σ)) (side other : Side)
    (l : Link (StateM σ) (Forge (StateM σ))) :
    (k.setLink side l).link other = if other = side then l else k.link other := by
  cases side <;> cases other <;> rfl

lemma Collaborators.contacts_setLink (k : Collaborators X (StateM σ)) (side : Side)
    (l : Link (StateM σ) (Forge (StateM σ))) :
    (k.setLink side l).contacts =
      Function.update k.contacts side (l.forge?.map Forge.kind) := by
  funext other
  cases side <;> cases other <;> simp [contacts, setLink, link]

def Use.steps (u : Use (StateM σ) (Forge (StateM σ))) (side : Side) : List (Step X) :=
  match u.attempt with
  | some _ => [.attempted side (u.result.map Forge.kind) u.log]
  | none => []

lemma Link.use_of_forge {φ : Type} {l : Link (StateM σ) φ} {f : φ} (hf : l.forge? = some f)
    (s : σ) : l.use s = (⟨.ok f, l, none, []⟩, s) := by
  simp only [use, hf]
  rfl

lemma Link.use_of_unconnected {φ : Type} {l : Link (StateM σ) φ} (hf : l.forge? = none) (s : σ) :
    l.use s = (l.keep (l.connect s).1, (l.connect s).2) := by
  simp only [use, hf]
  rfl

lemma Link.use_reaches (k : Collaborators X (StateM σ)) (side : Side) (s : σ) :
    let u := ((k.link side).use s).1
    Reaches k.contacts side (u.steps side : List (Step X)) (u.result.map Forge.kind)
        (k.setLink side u.link).contacts ∧
      (u.entries side : List (Entry X)) = (u.steps side).flatMap Step.entries := by
  intro u
  rw [Collaborators.contacts_setLink]
  cases hf : (k.link side).forge? with
  | some f =>
    have hc : k.contacts side = some f.kind := by simp [Collaborators.contacts, hf]
    have hu : u = ⟨.ok f, k.link side, none, []⟩ := by simp only [u, use_of_forge hf]
    have hk : Function.update k.contacts side (some f.kind) = k.contacts := by simp [← hc]
    rw [hu, hf, Option.map_some, hk]
    exact ⟨.connected hc, rfl⟩
  | none =>
    have hc : k.contacts side = none := by simp [Collaborators.contacts, hf]
    have hu : u = (k.link side).keep ((k.link side).connect s).1 := by
      simp only [u, use_of_unconnected hf]
    rw [hu]
    cases hx : ((k.link side).connect s).1.value with
    | ok f =>
      simp only [keep, hx]
      exact ⟨.connects f.kind _ hc, by simp [Use.entries, Use.steps, Step.entries, Except.map]⟩
    | error err =>
      -- A failed attempt is not kept, so that the contacts stay as they were.
      have hk : Function.update k.contacts side none = k.contacts := by simp [← hc]
      simp only [keep, hx, hf, Option.map_none, hk]
      exact ⟨.fails err _ hc, by simp [Use.entries, Use.steps, Step.entries, Except.map]⟩

lemma stateM_bind (x : StateM σ α) (f : α → StateM σ β) (s : σ) :
    (x >>= f) s = f (x s).1 (x s).2 := rfl

lemma stateM_pure (a : α) (s : σ) : (pure a : StateM σ α) s = (a, s) := rfl

namespace Program

def steps : Program X α → Collaborators X (StateM σ) → σ → List (Step X)
  | .done _, _, _ => []
  | .log r next, k, s => .logged r :: next.steps k s
  | .reach side next, k, s =>
    let (u, s) := (k.link side).use s
    u.steps side ++ (next (u.result.map Forge.kind)).steps (k.setLink side u.link) s
  | .askForge side call next, k, s =>
    let (u, s) := (k.link side).use s
    match u.result with
    | .error err => u.steps side ++ (next (.error err)).steps (k.setLink side u.link) s
    | .ok f =>
      let (x, s) := f.ask call s
      u.steps side ++ .askedForge side call x.value x.log ::
        (next x.value).steps (k.setLink side u.link) s
  | .askPackaging call next, k, s =>
    let (x, s) := k.packaging.ask call s
    .askedPackaging call x.value x.log :: (next x.value).steps k s
  | .act a next, k, s =>
    let (x, s) := k.act a s
    .acted a x :: (next x).steps k s

theorem run_path (p : Program X α) (k : Collaborators X (StateM σ)) (s : σ) :
    let o := (p.run k s).1
    Path k.contacts p (p.steps k s) o.value o.collaborators.contacts ∧
      o.transcript = (p.steps k s).flatMap Step.entries := by
  induction p generalizing k s with
  | done a => exact ⟨.done a, rfl⟩
  | log r next ih =>
    obtain ⟨hp, ht⟩ := ih k s
    simp only [run, steps, stateM_bind, stateM_pure, Outcome.after_transcript]
    exact ⟨.log hp, congrArg _ ht⟩
  | reach side next ih =>
    obtain ⟨hr, hu⟩ := Link.use_reaches k side s
    simp only [run, steps, stateM_bind, stateM_pure, Outcome.after_transcript]
    generalize (k.link side).use s = us at hr hu ⊢
    obtain ⟨u, s₁⟩ := us
    obtain ⟨hp, ht⟩ := ih (u.result.map Forge.kind) (k.setLink side u.link) s₁
    refine ⟨.reach hr hp, ?_⟩
    rw [List.flatMap_append, hu, ht]
  | askForge side call next ih =>
    obtain ⟨hr, hu⟩ := Link.use_reaches k side s
    simp only [run, steps, stateM_bind]
    generalize (k.link side).use s = us at hr hu ⊢
    obtain ⟨u, s₁⟩ := us
    cases hf : u.result with
    | error err =>
      obtain ⟨hp, ht⟩ := ih (.error err) (k.setLink side u.link) s₁
      simp only [hf, Except.map, stateM_bind, stateM_pure, Outcome.after_transcript] at hr ⊢
      refine ⟨.unreached hr hp, ?_⟩
      rw [List.flatMap_append, hu, ht]
    | ok f =>
      simp only [hf, Except.map, stateM_bind, stateM_pure, Outcome.after_transcript] at hr ⊢
      generalize f.ask call s₁ = xs
      obtain ⟨x, s₂⟩ := xs
      obtain ⟨hp, ht⟩ := ih x.value (k.setLink side u.link) s₂
      refine ⟨.askForge _ _ hr hp, ?_⟩
      rw [List.flatMap_append, List.flatMap_cons, hu, ht, List.append_assoc]
      rfl
  | askPackaging call next ih =>
    simp only [run, steps, stateM_bind, stateM_pure, Outcome.after_transcript]
    obtain ⟨hp, ht⟩ := ih (k.packaging.ask call s).1.value k (k.packaging.ask call s).2
    exact ⟨.askPackaging _ _ hp, congrArg _ ht⟩
  | act a next ih =>
    simp only [run, steps, stateM_bind, stateM_pure, Outcome.after_transcript]
    obtain ⟨hp, ht⟩ := ih (k.act a s).1 k (k.act a s).2
    exact ⟨.act _ hp, congrArg _ ht⟩

end Program

end Runs

end JobDispatch
