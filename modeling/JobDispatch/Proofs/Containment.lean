import JobDispatch.Offline.ConfigForge
import JobDispatch.Offline.FileTree
import JobDispatch.Offline.Recorder
import JobDispatch.Proofs.EventStream
import JobDispatch.Proofs.Recognition

/-! Which files the offline collaborators read, and when these lie in the directory they are given.
Owners, repositories and spec files come from events and configurations, and are joined to the
directory as they are. So they can lead out of it, with an absolute part or by going up. -/

namespace JobDispatch

open Text

def IsAbsolute (path : String) : Prop :=
  path.toList.head? = some '/'

instance (path : String) : Decidable (IsAbsolute path) :=
  inferInstanceAs (Decidable (_ = _))

/-- Where a path leads by its names alone: from the top or from where one stands, some levels up,
and then down these names, of which the last comes first. -/
structure Place where
  fromTop : Bool
  ups : Nat := 0
  names : List String := []
  deriving DecidableEq

namespace Place

def up (p : Place) : Place :=
  match p.names with
  | _ :: names => { p with names := names }
  | [] => if p.fromTop then p else { p with ups := p.ups + 1 }

def step (p : Place) (name : String) : Place :=
  if name = "" ∨ name = "." then p
  else if name = ".." then p.up
  else { p with names := name :: p.names }

def walk (p : Place) (names : List String) : Place :=
  names.foldl step p

def of (path : String) : Place :=
  walk ⟨decide (IsAbsolute path), 0, []⟩ (FileTree.components path)

def Inside (p root : Place) : Prop :=
  p.fromTop = root.fromTop ∧ p.ups = root.ups ∧ root.names <:+ p.names

instance (p root : Place) : Decidable (p.Inside root) :=
  inferInstanceAs (Decidable (_ ∧ _ ∧ _))

def below (p base : Place) : Place :=
  { base with names := p.names ++ base.names }

variable {p base : Place} {name : String} {names : List String}

lemma fromTop_up (p : Place) : p.up.fromTop = p.fromTop := by
  obtain ⟨fromTop, ups, _ | _⟩ := p
  · cases fromTop <;> rfl
  · rfl

lemma ups_le_up (p : Place) : p.ups ≤ p.up.ups := by
  obtain ⟨fromTop, ups, _ | _⟩ := p
  · cases fromTop
    · exact Nat.le_succ ups
    · exact le_rfl
  · exact le_rfl

lemma up_below (ht : p.fromTop = false) (h : p.up.ups = p.ups) :
    (p.below base).up = p.up.below base := by
  obtain ⟨fromTop, ups, _ | ⟨last, names⟩⟩ := p
  · obtain rfl : fromTop = false := ht
    exact absurd h (Nat.succ_ne_self ups)
  · rfl

lemma fromTop_step (p : Place) (name : String) : (p.step name).fromTop = p.fromTop := by
  rw [step, apply_ite fromTop, apply_ite fromTop, fromTop_up]
  simp

lemma ups_le_step (p : Place) (name : String) : p.ups ≤ (p.step name).ups := by
  rw [step]
  split_ifs
  · exact le_rfl
  · exact p.ups_le_up
  · exact le_rfl

lemma step_below (ht : p.fromTop = false) (h : (p.step name).ups = p.ups) :
    (p.below base).step name = (p.step name).below base := by
  rw [step] at h ⊢
  split_ifs at h ⊢ with he hu
  · rw [step, if_pos he]
  · rw [step, if_neg he, if_pos hu]
    exact up_below ht h
  · rw [step, if_neg he, if_neg hu]
    rfl

lemma fromTop_walk (p : Place) (names : List String) : (p.walk names).fromTop = p.fromTop := by
  induction names generalizing p with
  | nil => rfl
  | cons name names ih => exact (ih _).trans (p.fromTop_step name)

lemma ups_le_walk (p : Place) (names : List String) : p.ups ≤ (p.walk names).ups := by
  induction names generalizing p with
  | nil => exact le_rfl
  | cons name names ih => exact (p.ups_le_step name).trans (ih _)

lemma walk_below (ht : p.fromTop = false) (h : (p.walk names).ups = p.ups) :
    (p.below base).walk names = (p.walk names).below base := by
  induction names generalizing p with
  | nil => rfl
  | cons name names ih =>
    have hs : (p.step name).ups = p.ups :=
      le_antisymm (h ▸ (p.step name).ups_le_walk names) (p.ups_le_step name)
    have hw : ((p.step name).walk names).ups = (p.step name).ups := h.trans hs.symm
    change ((p.below base).step name).walk names = _
    rw [step_below ht hs, ih ((p.fromTop_step name).trans ht) hw]
    rfl

lemma walk_append (p : Place) (names names' : List String) :
    p.walk (names ++ names') = (p.walk names).walk names' :=
  List.foldl_append

lemma fromTop_of (path : String) : (of path).fromTop = decide (IsAbsolute path) :=
  fromTop_walk _ _

end Place

section Join

open FileTree Place

variable {directory path : String}

lemma components_append_slash (directory path : String) :
    components (directory ++ "/" ++ path) = components directory ++ components path := by
  simp [components, pieces_append_cons]

lemma isAbsolute_append (hd : directory ≠ "") :
    IsAbsolute (directory ++ path) ↔ IsAbsolute directory := by
  have hd : directory.toList ≠ [] := fun h => hd (String.toList_eq_nil_iff.mp h)
  rw [IsAbsolute, IsAbsolute, String.toList_append, List.head?_append_of_ne_nil _ hd]

lemma joinPath_of_isAbsolute (h : IsAbsolute path) : joinPath directory path = path :=
  if_pos h

lemma joinPath_cases (directory : String) (h : ¬ IsAbsolute path) :
    directory = "" ∧ joinPath directory path = path ∨
      (∃ top, directory = top ++ "/" ∧ joinPath directory path = top ++ "/" ++ path) ∨
        directory ≠ "" ∧ joinPath directory path = directory ++ "/" ++ path := by
  have hp : ¬ path.toList.head? = some '/' := h
  by_cases hd : directory = ""
  · subst hd
    exact .inl ⟨rfl, by simp [joinPath, hp]⟩
  by_cases hs : directory.toList.getLast? = some '/'
  · obtain ⟨cs, hcs⟩ := List.getLast?_eq_some_iff.mp hs
    have ht : directory = String.ofList cs ++ "/" := by
      rw [← String.toList_inj, hcs]
      simp
    exact .inr (.inl ⟨_, ht, by simp [joinPath, hp, hs, ← ht]⟩)
  · exact .inr (.inr ⟨hd, by simp [joinPath, hp, hs, hd]⟩)

lemma isAbsolute_joinPath :
    IsAbsolute (joinPath directory path) ↔ IsAbsolute path ∨ IsAbsolute directory := by
  by_cases h : IsAbsolute path
  · simp [joinPath_of_isAbsolute h, h]
  rw [or_iff_right h]
  rcases joinPath_cases directory h with ⟨rfl, hj⟩ | ⟨top, rfl, hj⟩ | ⟨hd, hj⟩
  · rw [hj]
    exact iff_of_false h (by decide)
  · rw [hj]
    exact isAbsolute_append (by simp)
  · rw [hj, String.append_assoc]
    exact isAbsolute_append hd

lemma place_joinPath (h : ¬ IsAbsolute path) :
    Place.of (joinPath directory path) = (Place.of directory).walk (components path) := by
  have ha : IsAbsolute (joinPath directory path) ↔ IsAbsolute directory := by
    rw [isAbsolute_joinPath, or_iff_right h]
  rcases joinPath_cases directory h with ⟨rfl, hj⟩ | ⟨top, rfl, hj⟩ | ⟨-, hj⟩
  · rw [hj] at ha ⊢
    rw [Place.of, decide_eq_decide.mpr ha]
    rfl
  · rw [Place.of, decide_eq_decide.mpr ha, hj, components_append_slash, walk_append, Place.of]
    have ht : components (top ++ "/") = components top ++ components "" := by
      simpa using components_append_slash top ""
    -- What stands behind the last slash of the directory is empty, and leads nowhere.
    rw [ht, walk_append]
    rfl
  · rw [Place.of, decide_eq_decide.mpr ha, hj, components_append_slash, walk_append]
    rfl

lemma isAbsolute_joinPaths (root : String) (parts : List String) :
    IsAbsolute (parts.foldl joinPath root) ↔
      (∃ part ∈ parts, IsAbsolute part) ∨ IsAbsolute root := by
  induction parts generalizing root with
  | nil => simp
  | cons part parts ih =>
    rw [List.foldl_cons, ih, isAbsolute_joinPath, List.exists_mem_cons_iff, or_left_comm, or_assoc]

lemma place_joinPaths (root : String) {parts : List String}
    (h : ∀ part ∈ parts, ¬ IsAbsolute part) :
    Place.of (parts.foldl joinPath root) =
      (Place.of root).walk (parts.flatMap components) := by
  induction parts generalizing root with
  | nil => rfl
  | cons part parts ih =>
    rw [List.forall_mem_cons] at h
    rw [List.foldl_cons, ih _ h.2, place_joinPath h.1, List.flatMap_cons, walk_append]

def Stays (parts : List String) : Prop :=
  (∀ part ∈ parts, ¬ IsAbsolute part) ∧
    ((Place.mk false 0 []).walk (parts.flatMap components)).ups = 0

instance (parts : List String) : Decidable (Stays parts) :=
  inferInstanceAs (Decidable (_ ∧ _))

lemma inside_iff_stays (parts : List String) :
    (∀ root, (Place.of (parts.foldl joinPath root)).Inside (Place.of root)) ↔ Stays parts := by
  constructor
  · intro h
    -- The empty root is where one stands: the parts alone have to lead down from there.
    obtain ⟨htop, hups, -⟩ := h ""
    have ha : ∀ part ∈ parts, ¬ IsAbsolute part := by
      intro part hm hp
      rw [Place.fromTop_of, Place.fromTop_of, decide_eq_decide, isAbsolute_joinPaths] at htop
      exact absurd (htop.mp (.inl ⟨part, hm, hp⟩)) (by decide)
    rw [place_joinPaths "" ha] at hups
    exact ⟨ha, hups⟩
  · rintro ⟨ha, hups⟩ root
    have hb : Place.of root = (Place.mk false 0 []).below (Place.of root) := rfl
    rw [place_joinPaths root ha, hb, walk_below rfl hups]
    exact ⟨rfl, rfl, List.suffix_append ..⟩

def IsPlain (name : String) : Prop :=
  '/' ∉ name.toList ∧ name ≠ ".."

lemma IsPlain.append_json {name : String} (h : '/' ∉ name.toList) : IsPlain (name ++ ".json") := by
  refine ⟨by simp [h], fun hn => ?_⟩
  have hl := congrArg String.length hn
  have hj : ".json".length = 5 := by decide
  have hd : "..".length = 2 := by decide
  rw [String.length_append] at hl
  omega

lemma ups_walk_of_not_mem {p : Place} {names : List String} (h : ".." ∉ names) :
    (p.walk names).ups = p.ups := by
  induction names generalizing p with
  | nil => rfl
  | cons name names ih =>
    rw [List.mem_cons, not_or] at h
    refine (ih h.2).trans ?_
    rw [step, if_neg (Ne.symm h.1)]
    split_ifs <;> rfl

lemma stays_of_isPlain {parts : List String} (h : ∀ part ∈ parts, IsPlain part) :
    Stays parts := by
  have hc : parts.flatMap components = parts := by
    conv_rhs => rw [← List.flatMap_singleton' parts]
    apply List.flatMap_congr
    intro part hm
    rw [components, pieces_of_not_mem (h part hm).1]
    simp
  refine ⟨fun part hm ha => ?_, ?_⟩
  · exact (h part hm).1 (List.mem_of_mem_head? ha)
  · rw [hc]
    exact ups_walk_of_not_mem fun hm => (h _ hm).2 rfl

end Join

section Reads

variable {m : Type → Type} [Monad m] {files files' : Files m}

inductive ConfigForge.Reads (f : ConfigForge) : ForgeCall → String → Prop
  | packageConfig (p : Project) (ref : String) : Reads f (.packageConfig p ref) (f.configPath p)

inductive Recorder.Reads (r : Recorder) : PackagingCall → String → Prop
  | sourceUrl {package : PackageConfig} {specfile : String} (p : Project) :
      package.specfile? = some specfile → Reads r (.sourceUrl package p) (r.specPath p specfile)

lemma Files.readText_congr {path : String} (h : files.read path = files'.read path) :
    files.readText path = files'.readText path := by
  rw [readText, readText, h]

lemma ConfigForge.ask_congr {f : ConfigForge} {call : ForgeCall}
    (h : ∀ path, f.Reads call path → files.read path = files'.read path) :
    f.ask files call = f.ask files' call := by
  cases call with
  | packageConfig p ref =>
    have hr := Files.readText_congr (h _ (.packageConfig p ref))
    simp only [ask, hr]
  | taggedCommit => rfl
  | comment => rfl

lemma Recorder.ask_congr {r : Recorder} {call : PackagingCall}
    (h : ∀ path, r.Reads call path → files.read path = files'.read path) :
    r.ask files call = r.ask files' call := by
  cases call with
  | sourceUrl package p =>
    cases hs : package.specfile? with
    | none => simp only [ask, hs]
    | some specfile =>
      have hr := Files.readText_congr (h _ (.sourceUrl p hs))
      simp only [ask, hs, hr]
      rfl
  | _ => rfl

/-- Of projects the offline collaborators read two files. These lie in the directory, whichever it
is, exactly if the parts that are joined to it stay there. -/
theorem offline_reads_inside :
    (∀ (f : ConfigForge) (files files' : Files m) (call : ForgeCall),
      (∀ path, f.Reads call path → files.read path = files'.read path) →
        f.ask files call = f.ask files' call) ∧
      (∀ (r : Recorder) (files files' : Files m) (call : PackagingCall),
        (∀ path, r.Reads call path → files.read path = files'.read path) →
          r.ask files call = r.ask files' call) ∧
      ∀ p : Project,
        (∀ kind, (∀ root, (Place.of ((ConfigForge.mk kind root).configPath p)).Inside
            (Place.of root)) ↔ Stays [p.owner, p.repo ++ ".json"]) ∧
          (∀ specfile, (∀ root, (Place.of ((Recorder.mk root).specPath p specfile)).Inside
            (Place.of root)) ↔ Stays [p.owner, p.repo, specfile]) ∧
          (IsPlain p.owner → IsPlain p.repo →
            Stays [p.owner, p.repo ++ ".json"] ∧
              ∀ specfile, IsPlain specfile → Stays [p.owner, p.repo, specfile]) := by
  refine ⟨fun _ _ _ _ => ConfigForge.ask_congr, fun _ _ _ _ => Recorder.ask_congr, fun p => ?_⟩
  refine ⟨fun kind => ?_, fun specfile => ?_, fun ho hr => ⟨?_, fun specfile hs => ?_⟩⟩
  · exact inside_iff_stays [p.owner, p.repo ++ ".json"]
  · exact inside_iff_stays [p.owner, p.repo, specfile]
  · exact stays_of_isPlain (by simp [ho, IsPlain.append_json hr.1])
  · exact stays_of_isPlain (by simp [ho, hr, hs])

end Reads

def publishedByAbsolute : Event where
  payload := .object [
    ("action", .text "published"),
    ("release", .object [("tag_name", .text "v1.0")]),
    ("repository", .object [
      ("name", .text "widget"),
      ("owner", .object [("login", .text "/acme")])])]

def pushedAbove : Event where
  payload := .object [
    ("msg", .object [("commit", .object [("branch", .text "f40"), ("namespace", .text ".."),
      ("repo", .text "..")])]),
    ("topic", .text "org.fedoraproject.prod.git.receive")]

theorem offline_reads_outside :
    publishedByAbsolute.recognized.value = some (.release "/acme" "widget" "v1.0" none) ∧
      pushedAbove.recognized.value = some (.distGitCommit ".." ".." "f40") ∧
      ¬ (Place.of ((ConfigForge.mk .upstream "config/upstream").configPath
        ⟨"/acme", "widget", .upstream⟩)).Inside (Place.of "config/upstream") ∧
      ¬ (Place.of ((Recorder.mk "config/downstream").specPath ⟨"..", "..", .downstream⟩
        "widget.spec")).Inside (Place.of "config/downstream") ∧
      ¬ (Place.of ((Recorder.mk "config/downstream").specPath ⟨"rpms", "widget", .downstream⟩
        "/widget.spec")).Inside (Place.of "config/downstream") := by
  refine ⟨?_, ?_, ?_, ?_, ?_⟩ <;> decide +kernel

end JobDispatch
