import JobDispatch.Proofs.EventStream
import JobDispatch.Proofs.Tally
import Mathlib

namespace JobDispatch

open EventStream

variable {X : Extras} {σ α : Type}

namespace EventStream

def Garbled (line : List UInt8) : Prop :=
  ∃ text, decodeUtf8 line = .ok text ∧ Text.trimmed text ≠ "" ∧
    Json.parse? (Text.trimmed text) = none

lemma Garbled.ofBytes {line : List UInt8} (h : Garbled line) : Line.ofBytes line = .malformed := by
  obtain ⟨text, hd, hn, hp⟩ := h
  simp [Line.ofBytes, hd, hn, inbound?, hp]

def NotUtf8 (line : List UInt8) : Prop := ∀ text, decodeUtf8 line ≠ .ok text

lemma NotUtf8.ofBytes {line : List UInt8} (h : NotUtf8 line) : Line.ofBytes line = .notUtf8 := by
  cases hd : decodeUtf8 line with
  | ok text => exact absurd hd (h text)
  | error e => simp [Line.ofBytes, hd]

variable {before bad : List UInt8}

lemma deliveries_garbled (hs : before = [] ∨ before.getLast? = some 10) (hb : 10 ∉ bad)
    (h : Garbled bad) (after : List UInt8) :
    ∃ read,
      deliveries (before ++ bad ++ 10 :: after) =
        deliveries before ++ .malformed (read + 1) :: deliveriesFrom (read + 1) (linesOf after) ∧
      deliveries (before ++ after) = deliveries before ++ deliveriesFrom read (linesOf after) := by
  obtain ⟨read, hread⟩ := exists_deliveriesFrom_append (linesOf before) 0
  refine ⟨read, ?_, ?_⟩
  · rw [deliveries, linesOf_splice hs hb, hread, deliveriesFrom, Line.ofBytes_dropCarriage,
      h.ofBytes]
    rfl
  · rw [deliveries, linesOf, Text.lines_append hs]
    exact hread (linesOf after)

lemma deliveries_notUtf8 (hs : before = [] ∨ before.getLast? = some 10) (hb : 10 ∉ bad)
    (h : NotUtf8 bad) (after : List UInt8) :
    ∃ read, deliveries (before ++ bad ++ 10 :: after) =
      deliveries before ++ .failure .notUtf8 :: deliveriesFrom read (linesOf after) := by
  obtain ⟨read, hread⟩ := exists_deliveriesFrom_append (linesOf before) 0
  refine ⟨read, ?_⟩
  rw [deliveries, linesOf_splice hs hb, hread, deliveriesFrom, Line.ofBytes_dropCarriage, h.ofBytes]
  rfl

lemma brought_splice (hs : before = [] ∨ before.getLast? = some 10) (hb : 10 ∉ bad)
    (after : List UInt8) :
    brought (before ++ bad ++ 10 :: after) =
      brought before ++ ((Line.ofBytes bad).brings?.toList ++ brought after) := by
  rw [brought, linesOf_splice hs hb, List.filterMap_append, List.filterMap_cons,
    Line.ofBytes_dropCarriage]
  cases (Line.ofBytes bad).brings? <;> rfl

lemma brought_append (hs : before = [] ∨ before.getLast? = some 10) (after : List UInt8) :
    brought (before ++ after) = brought before ++ brought after := by
  rw [brought, linesOf, Text.lines_append hs, List.filterMap_append]
  rfl

end EventStream

def Step.isSkip : Step X → Bool
  | .logged r => r.part = .listener && r.message = "Skipping malformed event"
  | _ => false

def unskipped (ss : List (Step X)) : List (Step X) := ss.filter fun st => !st.isSkip

/-- From these collaborators, the programs come to the same, and do the same but for notes of
skipped lines. -/
structure Program.Alike (p q : Program X α) (k : Collaborators X (StateM σ)) (s : σ) : Prop where
  value : (p.run k s).1.value = (q.run k s).1.value
  collaborators : (p.run k s).1.collaborators = (q.run k s).1.collaborators
  state : (p.run k s).2 = (q.run k s).2
  steps : unskipped (p.steps k s) = unskipped (q.steps k s)

namespace Program

variable {p q r : Program X α} {k : Collaborators X (StateM σ)} {s : σ}

lemma Alike.refl (p : Program X α) (k : Collaborators X (StateM σ)) (s : σ) : p.Alike p k s :=
  ⟨rfl, rfl, rfl, rfl⟩

lemma Alike.symm (h : p.Alike q k s) : q.Alike p k s :=
  ⟨h.value.symm, h.collaborators.symm, h.state.symm, h.steps.symm⟩

lemma Alike.trans (h : p.Alike q k s) (h' : q.Alike r k s) : p.Alike r k s :=
  ⟨h.value.trans h'.value, h.collaborators.trans h'.collaborators, h.state.trans h'.state,
    h.steps.trans h'.steps⟩

lemma Alike.skip (line : UInt64) (h : p.Alike q k s) : (log (skipped line) p).Alike q k s :=
  ⟨h.value, h.collaborators, h.state, h.steps⟩

lemma Alike.bind_right {β : Type} (p : Program X α) {f g : α → Program X β}
    (h : ∀ a k (s : σ), (f a).Alike (g a) k s) : (p.bind f).Alike (p.bind g) k s := by
  have h := h (p.run k s).1.value (p.run k s).1.collaborators (p.run k s).2
  constructor
  · rw [run_bind_apply, run_bind_apply]
    exact h.value
  · rw [run_bind_apply, run_bind_apply]
    exact h.collaborators
  · rw [run_bind_apply, run_bind_apply]
    exact h.state
  · rw [steps_bind, steps_bind, unskipped, unskipped, List.filter_append, List.filter_append]
    exact congrArg (_ ++ ·) h.steps

end Program

namespace Listener

def deliver : Except StreamError Inbound → Delivery
  | .ok i => .event i
  | .error e => .failure e

open Program in
lemma runFrom_alike (d : Dispatcher X) (a : Summary) (xs : List Delivery)
    (k : Collaborators X (StateM σ)) (s : σ) :
    (runFrom d a xs).Alike (runFrom d a ((xs.filterMap Delivery.brings?).map deliver)) k s := by
  -- A malformed line is a note in one run, and nothing in the other.
  induction xs generalizing a k s with
  | nil => exact .refl _ k s
  | cons x xs ih =>
    cases x with
    | event i =>
      refine Alike.bind_right (step d a (.event i)) fun r k s => ?_
      cases r with
      | ok a => exact ih a k s
      | error e => exact .refl _ k s
    | malformed line => exact (ih a k s).skip line
    | failure e => exact .refl _ k s

lemma run_alike (d : Dispatcher X) {xs ys : List Delivery}
    (h : xs.filterMap Delivery.brings? = ys.filterMap Delivery.brings?)
    (k : Collaborators X (StateM σ)) (s : σ) : (run d xs).Alike (run d ys) k s := by
  have hx := runFrom_alike d {} xs k s
  rw [h] at hx
  exact hx.trans (runFrom_alike d {} ys k s).symm

/-- A line of text that is no JSON is skipped. One that is not UTF-8 ends the run. -/
theorem run_malformedLine (d : Dispatcher X) {before bad : List UInt8}
    (hs : before = [] ∨ before.getLast? = some 10) (hb : 10 ∉ bad) (after : List UInt8) :
    let whole := before ++ bad ++ 10 :: after
    (Garbled bad →
      (∀ xs, (Source.ofBytes whole).Yields xs ↔ (Source.ofBytes (before ++ after)).Yields xs) ∧
      (∃ read,
        deliveries whole =
          deliveries before ++ .malformed (read + 1) :: deliveriesFrom (read + 1) (linesOf after) ∧
        deliveries (before ++ after) =
          deliveries before ++ deliveriesFrom read (linesOf after)) ∧
      ∀ (k : Collaborators X (StateM σ)) (s : σ),
        (run d (deliveries whole)).Alike (run d (deliveries (before ++ after))) k s) ∧
    (NotUtf8 bad →
      (∀ xs, (Source.ofBytes whole).Yields xs ↔
        xs = brought before ++ .error .notUtf8 :: brought after) ∧
      (Sound (deliveries before) → ∀ (k : Collaborators X (StateM σ)) (s : σ),
        (run d (deliveries whole)).Runs k s (.error .notUtf8)
          (d.afterAll (messages (deliveries before)) k s) (told d (deliveries before) k s))) := by
  intro whole
  have hwhole := brought_splice hs hb after
  constructor
  · intro hg
    rw [hg.ofBytes] at hwhole
    have hsame : brought whole = brought (before ++ after) :=
      hwhole.trans (brought_append hs after).symm
    refine ⟨fun xs => ?_, deliveries_garbled hs hb hg after, run_alike d ?_⟩
    · rw [yields_iff, yields_iff, hsame]
    · rw [deliveries, deliveries, filterMap_brings_deliveriesFrom, filterMap_brings_deliveriesFrom]
      exact hsame
  · intro hn
    rw [hn.ofBytes] at hwhole
    refine ⟨fun xs => ?_, fun hsound k s => ?_⟩
    · rw [yields_iff, hwhole]
      rfl
    · obtain ⟨read, hd⟩ := deliveries_notUtf8 hs hb hn after
      rw [hd]
      exact run_runs_failure d k s hsound .notUtf8 _

def emptyObject : List UInt8 := [123, 125, 10]

theorem run_malformedLine_emptyObject :
    let d : Dispatcher Extras.none := .standard
    let k : Collaborators Extras.none (StateM Unit) := .granting {}
    emptyObject.getLast? = some 10 ∧ 10 ∉ ([120] : List UInt8) ∧ Garbled [120] ∧ NotUtf8 [255] ∧
      Sound (deliveries emptyObject) ∧
      (run d (deliveries (emptyObject ++ [120] ++ 10 :: emptyObject))).Alike
        (run d (deliveries (emptyObject ++ emptyObject))) k () ∧
      ((run d (deliveries (emptyObject ++ [255] ++ 10 :: emptyObject))).run k ()).1.value =
        .error .notUtf8 := by
  intro d k
  have hlast : emptyObject.getLast? = some 10 := rfl
  have hx : (10 : UInt8) ∉ ([120] : List UInt8) := by decide
  have hy : (10 : UInt8) ∉ ([255] : List UInt8) := by decide
  have hg : Garbled [120] :=
    ⟨"x", by decide +kernel, by decide +kernel, by cbv⟩
  have hn : NotUtf8 [255] := by
    intro text htext
    have herror : (decodeUtf8 [255]).isOk = false := by decide +kernel
    simp [htext] at herror
  have hsound : Sound (deliveries emptyObject) := by
    have hd : deliveries emptyObject = [.event ⟨⟨.object []⟩, none⟩] := by cbv
    intro e he
    simp [hd] at he
  obtain ⟨hgarbled, -⟩ := @run_malformedLine _ Unit d _ _ (.inr hlast) hx emptyObject
  obtain ⟨-, hfails⟩ := @run_malformedLine _ Unit d _ _ (.inr hlast) hy emptyObject
  obtain ⟨-, -, halike⟩ := hgarbled hg
  exact ⟨hlast, hx, hg, hn, hsound, halike k (), ((hfails hn).2 hsound k ()).value⟩

theorem notUtf8_line_ends_run :
    let d : Dispatcher Extras.none := .standard
    let k : Collaborators Extras.none (StateM Unit) := .granting {}
    ((run d (deliveries ([255] ++ 10 :: emptyObject))).run k ()).1.value = .error .notUtf8 ∧
      ((run d (deliveries emptyObject)).run k ()).1.value = .ok ⟨1, 0⟩ ∧
      ¬ ∀ xs, (Source.ofBytes ([255] ++ 10 :: emptyObject)).Yields xs ↔
        (Source.ofBytes emptyObject).Yields xs := by
  intro d k
  have hn : deliveries ([255] ++ 10 :: emptyObject) =
    [.failure .notUtf8, .event ⟨⟨.object []⟩, none⟩] := by cbv
  have ho : deliveries emptyObject = [.event ⟨⟨.object []⟩, none⟩] := by cbv
  refine ⟨by rw [hn]; rfl, by rw [ho]; decide +kernel, fun h => ?_⟩
  have hsame := yields_iff.mp ((h _).mpr (yields_iff.mpr rfl))
  have hlength := congrArg List.length hsame
  rw [brought, brought, ← filterMap_brings_deliveriesFrom 0, ← filterMap_brings_deliveriesFrom 0]
    at hlength
  change ((deliveries _).filterMap _).length = ((deliveries _).filterMap _).length at hlength
  rw [hn, ho] at hlength
  simp [Delivery.brings?] at hlength

end Listener

end JobDispatch
