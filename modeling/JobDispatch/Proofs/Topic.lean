import JobDispatch.Proofs.Builtins
import JobDispatch.Proofs.EventStream
import JobDispatch.Proofs.Registration
import Mathlib

namespace JobDispatch

open EventStream Log.Record

variable {X : Extras}

def Event.Names (e : Event) (topic : String) : Prop :=
  ∃ members, e.payload = .object members ∧ members.lookup "topic" = some (.text topic) ∧ topic ≠ ""

lemma Event.text?_topic_iff {e : Event} {topic : String} :
    e.text? ["topic"] = some topic ↔ e.Names topic := by
  rw [text?_eq_some_iff, HasText, Json.at?_cons]
  cases hp : e.payload with
  | object members => simp [Names, hp, Json.member?]
  | _ => simp [Names, hp, Json.member?]

namespace EventStream

lemma inbound?_eq (text : String) :
    inbound? text = (Json.parse? text).map fun v => ⟨⟨v⟩, Event.text? ⟨v⟩ ["topic"]⟩ := by
  unfold inbound?
  congr 1
  funext v
  cases hv : v.member? "topic" <;> simp [Event.text?, Event.at?, hv]

lemma ofBytes_eq_event {line : List UInt8} {i : Inbound} (h : Line.ofBytes line = .event i) :
    ∃ text, inbound? text = some i := by
  rw [Line.ofBytes] at h
  cases hs : decodeUtf8 line with
  | error e => simp [hs] at h
  | ok s =>
    simp only [hs] at h
    split_ifs at h
    cases hi : inbound? (Text.trimmed s) with
    | none => simp [hi] at h
    | some j =>
      simp only [hi, Line.event.injEq] at h
      exact ⟨Text.trimmed s, h ▸ hi⟩

lemma ofBytes_eq_event_of_parse (line : List UInt8) (text : String) {v : Json}
    (hd : decodeUtf8 line = .ok text) (ht : Text.trimmed text = text) (hne : text.isEmpty = false)
    (hv : Json.parse? text = some v) :
    Line.ofBytes line = .event ⟨⟨v⟩, Event.text? ⟨v⟩ ["topic"]⟩ := by
  simp [Line.ofBytes, hd, ht, hne, inbound?_eq, hv]

lemma mem_deliveriesFrom {read : UInt64} {lines : List (List UInt8)} {i : Inbound}
    (h : .event i ∈ deliveriesFrom read lines) : ∃ text, inbound? text = some i := by
  have hm : .ok i ∈ (deliveriesFrom read lines).filterMap Delivery.brings? :=
    List.mem_filterMap.mpr ⟨.event i, h, rfl⟩
  rw [filterMap_brings_deliveriesFrom] at hm
  obtain ⟨line, -, hl⟩ := List.mem_filterMap.mp hm
  exact ofBytes_eq_event (Line.brings?_eq_ok hl)

lemma topic_eq {text : String} {i : Inbound} (h : inbound? text = some i) :
    i.topic = i.event.text? ["topic"] := by
  rw [inbound?_eq, Option.map_eq_some_iff] at h
  obtain ⟨v, -, rfl⟩ := h
  rfl

end EventStream

namespace Dispatcher

variable {d : Dispatcher X} {e : Event} {topic : Option String}

lemma drops_iff : d.drops topic = true ↔ ∃ t, topic = some t ∧ ¬ d.registry.Declares t := by
  cases topic with
  | none => simp [drops]
  | some t => simp [drops, ← Registry.consumes_iff]

def unconsumed (topic : String) : Log.Record :=
  debug .dispatch "No handler consumes this topic" [("topic", topic)]

def Discards (d : Dispatcher X) (e : Event) (topic : Option String) : Prop :=
  ∃ t, d.dispatch e topic = Job.log (unconsumed t)

lemma dispatch_of_not_drops (h : d.drops topic = false) :
    d.dispatch e topic = d.dispatch e none := by
  have hn : d.drops none = false := rfl
  rw [dispatch, dispatch, if_neg (by simp [h]), if_neg (by simp [hn])]

open Job in
lemma Discards.drops (h : d.Discards e topic) : d.drops topic = true := by
  -- Undropped, an event leaves another note at its end, or else it asks its forge.
  obtain ⟨t, h⟩ := h
  by_contra ht
  have hp : Program.Path (fun _ => none) (d.dispatch e topic).run [.logged (unconsumed t)] (.ok ())
      (fun _ => none) := h ▸ path_log.mpr ⟨rfl, rfl, rfl⟩
  rw [dispatch, if_neg ht, path_bind] at hp
  rcases hp with ⟨_, hx, -⟩ | ⟨c?, κ₁, ss₁, ss₂, hs, h₁, h₂⟩
  · cases hx
  cases Event.path_classify h₁ with
  | unrecognized =>
    obtain ⟨rfl, -, -⟩ := path_log.mp h₂
    obtain ⟨-, hnote⟩ := @List.append_inj' _ [] _ _ _ hs rfl
    simp [unconsumed, debug] at hnote
  | classified package log notes _ _ =>
    have hm : ∀ s ∈ [(.logged (unconsumed t) : Step X)], s = .logged (unconsumed t) := by simp
    rw [hs] at hm
    have hf := hm _ (List.mem_append_left _ (List.mem_append_right _ (List.mem_cons_self ..)))
    cases hf

lemma discards_iff : d.Discards e topic ↔ ∃ t, topic = some t ∧ ¬ d.registry.Declares t := by
  rw [← drops_iff]
  constructor
  · exact Discards.drops
  · intro h
    exact ⟨topic.getD "", by rw [dispatch, if_pos h]; rfl⟩

lemma standard_declares (hd : Registry.standard.value = .ok d.registry) :
    d.registry.Declares distGitTopic := by
  rw [← Except.ok.inj (Registry.standard_value.symm.trans hd)]
  exact ⟨.syncFromDownstream, Handler.syncFromDownstream, rfl, rfl⟩

theorem dispatch_topic (d : Dispatcher X) :
    (∀ text, inbound? text =
      (Json.parse? text).map fun v => ⟨⟨v⟩, (⟨v⟩ : Event).text? ["topic"]⟩) ∧
    (∀ (e : Event) t, e.text? ["topic"] = some t ↔ e.Names t) ∧
    ∀ bytes i, .event i ∈ deliveries bytes →
      i.topic = i.event.text? ["topic"] ∧
      (d.Discards i.event i.topic ↔ ∃ t, i.event.Names t ∧ ¬ d.registry.Declares t) ∧
      (¬ d.Discards i.event i.topic → d.dispatch i.event i.topic = d.dispatch i.event none) ∧
      (Registry.standard.value = .ok d.registry → ∀ r, i.event.recognized.value = some r →
        r.trigger = .commit → ¬ d.Discards i.event i.topic) := by
  refine ⟨inbound?_eq, fun _ _ => Event.text?_topic_iff, fun bytes i hi => ?_⟩
  obtain ⟨text, hi⟩ := mem_deliveriesFrom hi
  have ht := topic_eq hi
  refine ⟨ht, ?_, ?_, ?_⟩
  · simp only [discards_iff, ht, Event.text?_topic_iff]
  · intro hn
    refine dispatch_of_not_drops (Bool.eq_false_iff.mpr fun hdrop => hn ?_)
    exact discards_iff.mpr (drops_iff.mp hdrop)
  · intro hd r hr hrt hdiscards
    obtain ⟨t, hit, hn⟩ := discards_iff.mp hdiscards
    cases (Event.recognized_eq_some_iff _ r).mp hr with
    | release | pullRequest => cases hrt
    | distGitCommit hc =>
      have htopic : i.topic = some distGitTopic := ht.trans (Event.text?_eq_some_iff.mpr hc.topic)
      obtain rfl := Option.some.inj (htopic.symm.trans hit)
      exact hn (standard_declares hd)

def announced : List UInt8 := "\x7b\"topic\":\"copr.build.end\"\x7d\n".toUTF8.toList

def built : Inbound :=
  ⟨⟨.object [("topic", .text "copr.build.end")]⟩, some "copr.build.end"⟩

def commitText : String :=
  "\x7b\"topic\":\"org.fedoraproject.prod.git.receive\",\"msg\":\x7b\"commit\":\x7b" ++
    "\"namespace\":\"rpms\",\"repo\":\"widget\",\"branch\":\"f40\"\x7d\x7d\x7d"

def committed : List UInt8 := (commitText ++ "\n").toUTF8.toList

def pushed : Event where
  payload := .object [
    ("msg", .object [("commit", .object [("branch", .text "f40"), ("namespace", .text "rpms"),
      ("repo", .text "widget")])]),
    ("topic", .text distGitTopic)]

set_option maxRecDepth 4096 in
lemma deliveries_committed :
    deliveries committed = [.event ⟨pushed, some distGitTopic⟩] := by
  have hv : Json.parse? commitText = some pushed.payload := by cbv
  have ht : pushed.text? ["topic"] = some distGitTopic := by decide +kernel
  have hlines : linesOf committed = [commitText.toUTF8.toList] := by decide +kernel
  have hline := ofBytes_eq_event_of_parse commitText.toUTF8.toList commitText (by decide +kernel)
    (by decide +kernel) (by decide +kernel) hv
  rw [deliveries, hlines, deliveriesFrom, hline]
  exact congrArg (fun topic => [Delivery.event ⟨pushed, topic⟩]) ht

theorem dispatch_topic_announced :
    let d : Dispatcher Extras.none := standard
    Registry.standard.value = .ok d.registry ∧
      .event built ∈ deliveries announced ∧ d.Discards built.event built.topic ∧
      .event ⟨pushed, some distGitTopic⟩ ∈ deliveries committed ∧
      pushed.recognized.value = some (.distGitCommit "rpms" "widget" "f40") ∧
      ¬ d.Discards pushed (some distGitTopic) ∧
      d.dispatch pushed (some distGitTopic) = d.dispatch pushed none := by
  intro d
  have hd : Registry.standard.value = .ok d.registry := Registry.standard_value
  have hbuilt : deliveries announced = [.event built] := by cbv
  have hr : pushed.recognized.value = some (.distGitCommit "rpms" "widget" "f40") := by
    decide +kernel
  have hm : .event built ∈ deliveries announced := by simp [hbuilt]
  have hm' : .event ⟨pushed, some distGitTopic⟩ ∈ deliveries committed := by
    simp [deliveries_committed]
  obtain ⟨-, -, h⟩ := dispatch_topic d
  obtain ⟨-, hdropped, -, -⟩ := h _ built hm
  obtain ⟨-, -, hsame, hcommit⟩ := h _ ⟨pushed, some distGitTopic⟩ hm'
  have hn : ¬ d.Discards pushed (some distGitTopic) := hcommit hd _ hr rfl
  refine ⟨hd, hm, hdropped.mpr ⟨"copr.build.end", ?_, ?_⟩, hm', hr, hn, hsame hn⟩
  · exact ⟨_, rfl, rfl, by decide⟩
  · rw [← Registry.consumes_iff]
    decide +kernel

end Dispatcher

end JobDispatch
