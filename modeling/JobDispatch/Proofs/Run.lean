import JobDispatch.Run
import Mathlib.Tactic

namespace JobDispatch

variable {X : Extras} {m : Type → Type} {α β : Type}

namespace Outcome

@[simp] lemma after_nil (o : Outcome X m α) : o.after [] = o := rfl

@[simp] lemma after_after (o : Outcome X m α) (es fs : List (Entry X)) :
    (o.after fs).after es = o.after (es ++ fs) := by
  simp [after]

@[simp] lemma after_value (o : Outcome X m α) (es : List (Entry X)) :
    (o.after es).value = o.value := rfl

@[simp] lemma after_collaborators (o : Outcome X m α) (es : List (Entry X)) :
    (o.after es).collaborators = o.collaborators := rfl

@[simp] lemma after_transcript (o : Outcome X m α) (es : List (Entry X)) :
    (o.after es).transcript = es ++ o.transcript := rfl

def follow [Monad m] (o : Outcome X m (Except JobError α))
    (f : α → Collaborators X m → m (Outcome X m (Except JobError β))) :
    m (Outcome X m (Except JobError β)) :=
  match o.value with
  | .error err => return ⟨.error err, o.collaborators, o.transcript⟩
  | .ok a => do
    let o' ← f a o.collaborators
    return o'.after o.transcript

end Outcome

section Granting

variable [Pure m]

def Forge.granting (package : PackageConfig) (kind : Side) : Forge m where
  kind := kind
  ask
    | .packageConfig .. => pure ⟨.ok package, []⟩
    | .taggedCommit .. => pure ⟨.ok "9fceb02", []⟩
    | .comment .. => pure ⟨.ok (), []⟩

def Packaging.granting : Packaging m where
  ask
    | .sourceUrl .. => pure ⟨.ok (some "https://forge.example/acme/widget"), []⟩
    | .carryBack .. => pure ⟨.ok (), []⟩
    | .checkPullRequest .. => pure ⟨.ok (), []⟩
    | .proposeRelease .. => pure ⟨.ok (), []⟩
    | .build .. => pure ⟨.ok ⟨1, "https://builds.example/1"⟩, []⟩

def Collaborators.granting (package : PackageConfig) : Collaborators Extras.none m where
  upstream := .ready (.granting package .upstream)
  downstream := .ready (.granting package .downstream)
  packaging := .granting
  act := nofun

end Granting

variable [Monad m] [LawfulMonad m]

lemma Program.run_bind (p : Program X α) (f : α → Program X β) (k : Collaborators X m) :
    (p.bind f).run k = do
      let o ← p.run k
      let o' ← (f o.value).run o.collaborators
      return o'.after o.transcript := by
  induction p generalizing k with
  | done a => simp [run]
  | log r next ih => simp [run, ih]
  | reach side next ih => simp [run, ih]
  | askForge side call next ih =>
    simp only [askForge_bind, run, LawfulMonad.bind_assoc]
    apply bind_congr
    intro u
    cases u.result <;> simp [ih]
  | askPackaging call next ih => simp [run, ih]
  | act a next ih => simp [run, ih]

lemma Job.run_bind (j : Job X α) (f : α → Job X β) (k : Collaborators X m) :
    (j >>= f).run.run k =
      j.run.run k >>= fun o => o.follow fun a => (f a).run.run := by
  rw [ExceptT.run_bind, Program.bind_eq, Program.run_bind]
  apply bind_congr
  intro o
  cases ho : o.value with
  | error err => simp [Program.run, Outcome.after, Outcome.follow, ho]
  | ok a => simp only [Outcome.follow, ho]

lemma Job.run_log (r : Log.Record) (k : Collaborators X m) :
    (Job.log r).run.run k = pure ⟨.ok (), k, [.logged r]⟩ := by
  simp [Job.log, Program.run, Outcome.after]

end JobDispatch
