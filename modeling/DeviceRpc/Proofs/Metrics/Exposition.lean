import Mathlib.Algebra.BigOperators.Group.List.Basic
import DeviceRpc.Proofs.Metrics.Changes

/-!
# What the exposition shows

The text of an exposition follows from what was done, except for the order in which the series of a
family stand, which is up to whoever goes through it. A `Layout` lists the label sets of each family
in some order. It fits if these are the label sets that were used, and the texts that can be shown
are the ones that fitting layouts spell out, no more and no less (`NodeMetrics.texts_iff`). What they
spell out is said in terms of what was done under each label set, so all that can be read off an
exposition is told from there (`NodeMetrics.series_add_up`).
-/

namespace DeviceRpc

namespace Metrics

/-! ## Texts -/

/-- Lines as a text, each with a line feed at its end. -/
def unlines (lines : List String) : String := String.join (lines.map (· ++ "\n"))

theorem unlines_cons (line : String) (rest : List String) :
    unlines (line :: rest) = line ++ "\n" ++ unlines rest := by
  simp [unlines]

theorem unlines_append (lines rest : List String) :
    unlines (lines ++ rest) = unlines lines ++ unlines rest := by
  simp [unlines]

theorem unlines_flatMap {γ : Type} (keys : List γ) (lines : γ → List String) :
    unlines (keys.flatMap lines) = String.join (keys.map fun key => unlines (lines key)) := by
  induction keys with
  | nil => rfl
  | cons key rest ih =>
    rw [List.flatMap_cons, unlines_append, ih, List.map_cons, String.join_cons]

/-- A sample, on a line of its own. -/
def sample (name : String) (pairs : List (String × String)) (value : String) : String :=
  name ++ "\x7b" ++ body pairs ++ "\x7d " ++ value

/-- The lines of a histogram: how many observations do not exceed each bound, how many there are, the
sum of all, and once more how many. -/
def histogramLines (name : String) (key : Labels) (buckets : List Nat) (count sum : Nat) :
    List String :=
  let bucket (bound : String) (n : Nat) : String :=
    sample (name ++ "_bucket") (key ++ [("le", bound)]) (toString n)
  List.zipWith (fun bound n => bucket (toString bound) n) bounds buckets
    ++ [bucket "+Inf" count, sample (name ++ "_sum") key (toString sum),
      sample (name ++ "_count") key (toString count)]

section

variable {α : Type} (name : String) (keys : List Labels)

theorem numberText_eq (kind : String) (digits : α → String) (value : Labels → α) :
    numberText kind name digits (keys.map fun key => (key, value key))
      = unlines (("# TYPE " ++ name ++ " " ++ kind)
        :: keys.flatMap fun key => [sample name key (digits (value key))]) := by
  rw [unlines_cons, unlines_flatMap, numberText, List.map_map]
  have series (key : Labels) : name ++ "\x7b" ++ body key ++ "\x7d " ++ digits (value key) ++ "\n"
      = unlines [sample name key (digits (value key))] := by
    simp [unlines, sample]
  simp only [← series]
  rfl

theorem histogramText_eq (value : Labels → Histogram) :
    histogramText name (keys.map fun key => (key, value key))
      = unlines (("# TYPE " ++ name ++ " histogram") :: keys.flatMap fun key =>
        histogramLines name key ((value key).buckets.map UInt64.toNat) (value key).count.toNat
          (value key).sum.toNat) := by
  rw [unlines_cons, unlines_flatMap, histogramText, List.map_map]
  have heading : "# TYPE " ++ name ++ " histogram\n" = "# TYPE " ++ name ++ " histogram" ++ "\n" := by
    simp [String.append_assoc]
  rw [heading]
  refine congrArg (_ ++ String.join ·) (List.map_congr_left fun key _ => ?_)
  have buckets (line : Nat → Nat → String) (h : Histogram) :
      unlines (List.zipWith line bounds (h.buckets.map UInt64.toNat))
        = String.join (List.zipWith (fun bound n => line bound n.toNat ++ "\n") bounds h.buckets) := by
    rw [unlines, List.map_zipWith, List.zipWith_map_right]
  simp only [Function.comp_apply, histogramLines, unlines_append, buckets]
  simp [unlines, sample, String.append_assoc]

end

/-- A family can be gone through in any order. -/
theorem Traversal.exists_list {α : Type} [DecidableEq α] {family series : Family α}
    (perm : series.Perm family) : ∃ order : Traversal α, order.list family = series := by
  refine ⟨⟨fun other => if other = family then series else other, fun other => ?_⟩, if_pos rfl⟩
  split
  next same => exact same ▸ perm
  next => exact .refl _

end Metrics

namespace NodeMetrics

open Metrics

/-! ## Families -/

/-- A family as the exposition shows it: its name and type, what a change does to it, and the lines
of a series from what was done under its labels, in whatever order. -/
structure Exhibit (β : Type) where
  kind : String
  name : String
  use? : Change → Option (List (String × String) × β)
  about : ∀ change use, use? change = some use → use.1 = change.pairs
  lines : Labels → List β → List String
  settled : ∀ key {amounts amounts' : List β}, amounts.Perm amounts' →
    lines key amounts = lines key amounts'

/-- What was done under some labels. -/
def own (pairs : List (String × String)) (changes : List Change) : List Change :=
  changes.filter (·.pairs.isPerm pairs)

namespace Exhibit

variable {β : Type} (e : Exhibit β) {changes changes' : List Change}

/-- What some changes do to the family. -/
def uses (changes : List Change) : List (List (String × String) × β) := changes.filterMap e.use?

/-- The lines of a series after some changes. -/
def series (changes : List Change) (key : Labels) : List String :=
  e.lines key (Family.amounts key (e.uses changes))

/-- The lines of the family after some changes, with its series in some order. -/
def family (changes : List Change) (keys : List Labels) : List String :=
  ("# TYPE " ++ e.name ++ " " ++ e.kind) :: keys.flatMap (e.series changes)

/-- Only what was done under the labels counts. -/
theorem amounts_uses (key : Labels) (changes : List Change) :
    Family.amounts key (e.uses changes) = ((own key changes).filterMap e.use?).map Prod.snd := by
  have mine (change : Change) : (e.use? change).filter (·.1.isPerm key)
      = if change.pairs.isPerm key then e.use? change else none := by
    cases what : e.use? change with
    | none => simp
    | some use => simp [Option.filter_some, e.about change use what]
  simp only [Family.amounts, uses, own, List.filter_filterMap, List.filterMap_filter, mine]

/-- The same series under some labels, or none, after some changes and after others. -/
structure SameUnder (key : Labels) (changes changes' : List Change) : Prop where
  used : (∃ use ∈ e.uses changes, use.1.Perm key) ↔ ∃ use ∈ e.uses changes', use.1.Perm key
  lines : e.series changes key = e.series changes' key

theorem sameUnder {key : Labels} (same : (own key changes).Perm (own key changes')) :
    e.SameUnder key changes changes' := by
  have amounts : (Family.amounts key (e.uses changes)).Perm
      (Family.amounts key (e.uses changes')) := by
    rw [amounts_uses, amounts_uses]
    exact (same.filterMap _).map _
  refine ⟨?_, e.settled key amounts⟩
  rw [← Family.amounts_ne_nil_iff, ← Family.amounts_ne_nil_iff]
  exact not_congr ⟨fun none => (none ▸ amounts).nil_eq.symm,
    fun none => (none ▸ amounts.symm).nil_eq.symm⟩

theorem family_congr (perm : changes.Perm changes') (keys : List Labels) :
    e.family changes keys = e.family changes' keys := by
  have series : e.series changes = e.series changes' :=
    funext fun key => (e.sameUnder (perm.filter _)).lines
  rw [family, series, family]

end Exhibit

/-- The name of a counter in the exposition. -/
def Counter.title : Counter → String
  | requests => "obsrpc_requests_total"
  | protocolMismatches => "obsrpc_protocol_mismatches_total"
  | unknownCommands => "obsrpc_unknown_commands_total"
  | linkErrors => "obsrpc_transport_errors_total"

/-- A counter: a series is the sum of what was added. -/
def Counter.exhibit (c : Counter) : Exhibit UInt64 where
  kind := "counter"
  name := c.title
  use? := Change.counted? c
  about change use h := by
    cases change <;> simp only [Change.counted?] at h <;> grind [Change.pairs]
  lines key amounts :=
    [sample c.title key (toString ((amounts.map UInt64.toNat).sum % UInt64.size))]
  settled key _ _ perm := by rw [(perm.map _).sum_eq]

/-- The name of the gauge in the exposition. -/
def activeTitle : String := "obsrpc_connections_active"

/-- The gauge: a series is the sum of what was added, read with a sign. -/
def activeExhibit : Exhibit Int64 where
  kind := "gauge"
  name := activeTitle
  use? := Change.gauged?
  about change use h := by
    cases change <;> cases h
    rfl
  lines key amounts :=
    [sample activeTitle key (toString ((amounts.map Int64.toInt).sum.bmod UInt64.size))]
  settled key _ _ perm := by rw [(perm.map _).sum_eq]

/-- The name of the histogram in the exposition. -/
def durationTitle : String := "obsrpc_dispatch_duration_micros"

open Histogram (micros countUpTo)

/-- The histogram: a series says how many durations there were, and how long they took. -/
def durationExhibit : Exhibit Nat where
  kind := "histogram"
  name := durationTitle
  use? := Change.observed?
  about change use h := by
    cases change <;> cases h
    rfl
  lines key durations :=
    histogramLines durationTitle key
      (bounds.map fun bound => countUpTo bound durations % UInt64.size)
      (durations.length % UInt64.size) ((durations.map micros).sum % UInt64.size)
  settled key _ _ perm := by
    simp only [countUpTo, perm.countP_eq, perm.length_eq, (perm.map _).sum_eq]

/-! ## Families as text -/

/-- A family is shown by a text: with its series in some order, the text says what was done. -/
structure Shown {α β : Type} [Inhabited α] (e : Exhibit β) (family : NodeMetrics → Family α)
    (act : α → β → α) (text : Family α → String) : Prop where
  used : Used family act e.use?
  spelled : ∀ changes keys, text (keys.map fun key =>
    (key, (Family.amounts key (e.uses changes)).foldl act default)) = unlines (e.family changes keys)

theorem shown_counter (c : Counter) : Shown c.exhibit (counter c) (· + ·)
    (numberText "counter" c.title fun n => toString n.toNat) where
  used := used_counter c
  spelled changes keys := by
    have zero : (default : UInt64).toNat = 0 := rfl
    simp only [numberText_eq, toNat_foldl, zero, Nat.zero_add]
    rfl

theorem shown_active : Shown activeExhibit activeConnections (· + ·)
    (numberText "gauge" activeTitle fun n => toString n.toInt) where
  used := used_gauge
  spelled changes keys := by
    have zero : (default : Int64).toInt = 0 := rfl
    simp only [numberText_eq, toInt_foldl, zero, Int.zero_add]
    rfl

theorem shown_duration : Shown durationExhibit dispatchDuration
    (fun h duration => h.observe duration) (histogramText durationTitle) where
  used := used_histogram
  spelled changes keys := by
    have size : UInt64.size = 2 ^ 64 := rfl
    simp only [histogramText_eq, Histogram.foldl_observe_default, List.map_map, Function.comp_def,
      UInt64.toNat_ofNat', ← size]
    rfl

namespace Shown

variable {α β : Type} [Inhabited α] {e : Exhibit β} {family : NodeMetrics → Family α}
  {act : α → β → α} {text : Family α → String} (shown : Shown e family act text)
  {changes : List Change}

include shown

/-- Gone through in any order, the family is shown with the label sets that were used. -/
theorem exists_names (changes : List Change) (order : Traversal α) :
    ∃ keys, Family.Names (e.uses changes) keys ∧
    text (order.list (family (changed changes default))) = unlines (e.family changes keys) := by
  obtain ⟨keys, names, series⟩ := (shown.used.tracks changes).perm_iff.mp (order.perm _)
  exact ⟨keys, names, by rw [series]; exact shown.spelled changes keys⟩

/-- The label sets that were used can be shown in any order. -/
theorem exists_order [DecidableEq α] {keys : List Labels}
    (names : Family.Names (e.uses changes) keys) : ∃ order : Traversal α,
      text (order.list (family (changed changes default))) = unlines (e.family changes keys) := by
  obtain ⟨order, series⟩ := Traversal.exists_list
    ((shown.used.tracks changes).perm_iff.mpr ⟨keys, names, rfl⟩)
  exact ⟨order, by rw [series]; exact shown.spelled changes keys⟩

end Shown

/-! ## Layouts -/

/-- The label sets of every family, in some order. -/
structure Layout where
  counters : Counter → List Labels
  durations : List Labels
  active : List Labels

namespace Layout

/-- Every family has the label sets that it was used with, each once. -/
structure Fits (l : Layout) (changes : List Change) : Prop where
  counters : ∀ c : Counter, Family.Names (c.exhibit.uses changes) (l.counters c)
  durations : Family.Names (durationExhibit.uses changes) l.durations
  active : Family.Names (activeExhibit.uses changes) l.active

/-- The exposition with this layout, line by line. -/
def lines (l : Layout) (changes : List Change) (extra : List (String × UInt64)) : List String :=
  let counter (c : Counter) : List String := c.exhibit.family changes (l.counters c)
  counter .requests ++ counter .protocolMismatches ++ counter .unknownCommands
    ++ counter .linkErrors ++ durationExhibit.family changes l.durations
    ++ activeExhibit.family changes l.active
    ++ ["# TYPE obsrpc_draining gauge", "obsrpc_draining 0"]
    ++ extra.map fun (name, n) => name ++ " " ++ toString n.toNat

theorem Fits.of_perm {l : Layout} {changes changes' : List Change} (fits : l.Fits changes)
    (perm : changes.Perm changes') : l.Fits changes' where
  counters c := (fits.counters c).of_uses_perm (perm.filterMap _)
  durations := fits.durations.of_uses_perm (perm.filterMap _)
  active := fits.active.of_uses_perm (perm.filterMap _)

theorem lines_congr (l : Layout) {changes changes' : List Change} (perm : changes.Perm changes')
    (extra : List (String × UInt64)) : l.lines changes extra = l.lines changes' extra := by
  simp only [lines, Exhibit.family_congr _ perm]

end Layout

theorem draining_changed (changes : List Change) (m : NodeMetrics) :
    (m.changed changes).draining = m.draining := by
  induction changes generalizing m with
  | nil => rfl
  | cons change rest ih =>
    have here : (change.perform m).draining = m.draining := by
      cases change with
      | inc c pairs | add c pairs v => cases c <;> rfl
      | observe | addActive => rfl
    exact (ih (change.perform m)).trans here

/-- An exposition is spelled out where all of its families are. -/
theorem text_eq {m : NodeMetrics} (order : Traversals) (l : Layout) {changes : List Change}
    (running : m.draining = false)
    (counters : ∀ c : Counter, numberText "counter" c.title (fun n => toString n.toNat)
      ((order.counters c).list (m.counter c)) = unlines (c.exhibit.family changes (l.counters c)))
    (durations : histogramText durationTitle (order.dispatchDuration.list m.dispatchDuration)
      = unlines (durationExhibit.family changes l.durations))
    (active : numberText "gauge" activeTitle (fun n => toString n.toInt)
      (order.activeConnections.list m.activeConnections)
      = unlines (activeExhibit.family changes l.active)) (extra : List (String × UInt64)) :
    m.text order extra = unlines (l.lines changes extra) := by
  have rest : unlines (extra.map fun (name, n) => name ++ " " ++ toString n.toNat)
      = String.join (extra.map fun (name, n) => name ++ " " ++ toString n.toNat ++ "\n") := by
    rw [unlines, List.map_map]
    rfl
  have closing : unlines ["# TYPE obsrpc_draining gauge", "obsrpc_draining 0"]
      = "# TYPE obsrpc_draining gauge\nobsrpc_draining " ++ "0" ++ "\n" := by
    simp [unlines]
  simp only [Layout.lines, unlines_append, ← counters, ← durations, ← active, rest, closing]
  simp only [text, running, ← String.append_assoc]
  rfl

/-- **The texts that can be shown** after some changes are those that fitting layouts spell out. -/
theorem texts_iff (changes : List Change) (extra : List (String × UInt64)) {shown : String} :
    (∃ order, (changed changes default).text order extra = shown) ↔
      ∃ layout : Layout, layout.Fits changes ∧ shown = unlines (layout.lines changes extra) := by
  have running := draining_changed changes default
  constructor
  · rintro ⟨order, rfl⟩
    choose counters named spelled using fun c =>
      (shown_counter c).exists_names changes (order.counters c)
    obtain ⟨durations, timed, lasted⟩ := shown_duration.exists_names changes order.dispatchDuration
    obtain ⟨active, opened, gauged⟩ := shown_active.exists_names changes order.activeConnections
    exact ⟨⟨counters, durations, active⟩, ⟨named, timed, opened⟩,
      text_eq order ⟨counters, durations, active⟩ running spelled lasted gauged extra⟩
  · rintro ⟨l, fits, rfl⟩
    choose counters spelled using fun c => (shown_counter c).exists_order (fits.counters c)
    obtain ⟨dispatchDuration, lasted⟩ := shown_duration.exists_order fits.durations
    obtain ⟨activeConnections, gauged⟩ := shown_active.exists_order fits.active
    exact ⟨⟨counters, dispatchDuration, activeConnections⟩,
      text_eq ⟨counters, dispatchDuration, activeConnections⟩ l running spelled lasted gauged extra⟩

/-- In which order things were done does not decide what can be shown. -/
theorem texts_congr {changes changes' : List Change} (perm : changes.Perm changes')
    (extra : List (String × UInt64)) (shown : String) :
    (∃ order, (changed changes default).text order extra = shown) ↔
      ∃ order, (changed changes' default).text order extra = shown := by
  have fits (l : Layout) : l.Fits changes ↔ l.Fits changes' :=
    ⟨(·.of_perm perm), (·.of_perm perm.symm)⟩
  simp only [texts_iff, fits, Layout.lines_congr _ perm]

/-! ## Series -/

/-- The same series under some labels, or none, in every family. -/
structure SameUnder (key : Labels) (changes changes' : List Change) : Prop where
  counters : ∀ c : Counter, c.exhibit.SameUnder key changes changes'
  durations : durationExhibit.SameUnder key changes changes'
  active : activeExhibit.SameUnder key changes changes'

/-- The numbers of a histogram whose count does not wrap around: the buckets do not decrease, and
none has more durations than there are. -/
structure Counts (durations : List Nat) (key : Labels) : Prop where
  lines : durationExhibit.lines key durations =
    histogramLines durationTitle key (bounds.map (countUpTo · durations)) durations.length
      ((durations.map micros).sum % UInt64.size)
  ascending : (bounds.map (countUpTo · durations)).Pairwise (· ≤ ·)
  within : ∀ n ∈ bounds.map (countUpTo · durations), n ≤ durations.length

theorem counts_of_few {durations : List Nat} (few : durations.length < UInt64.size)
    (key : Labels) : Counts durations key where
  lines := by
    have exact (bound : Nat) : countUpTo bound durations % UInt64.size = countUpTo bound durations :=
      Nat.mod_eq_of_lt (Nat.lt_of_le_of_lt (Histogram.countUpTo_le bound durations) few)
    simp only [durationExhibit, exact, Nat.mod_eq_of_lt few]
  ascending := by
    have ascending : bounds.Pairwise (· ≤ ·) := by decide
    exact List.pairwise_map.mpr (ascending.imp fun le => Histogram.countUpTo_mono le durations)
  within := by
    simp only [List.mem_map, forall_exists_index, and_imp, forall_apply_eq_imp_iff₂]
    exact fun bound _ => Histogram.countUpTo_le bound durations

/-- **Series add up.** After any changes, whatever the order in which the families are gone through,
the exposition has in each family one series for each label set that was used, whatever the order of
the labels, with what was done under it. In which order things were done does not decide what can be
shown, and what was done under other labels does not show in a series. A histogram of fewer durations
than its numbers can hold counts them exactly. -/
theorem series_add_up (changes : List Change) (extra : List (String × UInt64)) :
    (∀ shown, (∃ order, (changed changes default).text order extra = shown) ↔
      ∃ layout : Layout, layout.Fits changes ∧ shown = unlines (layout.lines changes extra)) ∧
    (∀ changes', changes.Perm changes' → ∀ shown,
      (∃ order, (changed changes default).text order extra = shown) ↔
        ∃ order, (changed changes' default).text order extra = shown) ∧
    (∀ changes' key, (own key changes).Perm (own key changes') →
      SameUnder key changes changes') ∧
    ∀ key, let durations := Family.amounts key (durationExhibit.uses changes)
      durations.length < UInt64.size → Counts durations key := by
  refine ⟨fun _ => texts_iff changes extra, fun _ perm => texts_congr perm extra,
    fun _ _ same => ?_, fun key few => counts_of_few few key⟩
  exact ⟨fun c => c.exhibit.sameUnder same, durationExhibit.sameUnder same,
    activeExhibit.sameUnder same⟩

end NodeMetrics

end DeviceRpc
