import Mathlib.Algebra.BigOperators.Group.List.Basic
import UnicoreGnss.Node.HeadingGate
import UnicoreGnss.Node.Reports

/-!
# The order of the hash tables

Three of the tables that the diagnostics go through are hash tables, and the language leaves the
order of their keys open. What is published does not depend on it, but for the order of the values
with the GSV counts. The texts of the counted observations are sorted. The GSV counts are added up,
and each is entered under the name of its constellation, where the one would overwrite the other if
two talkers had the same name. They have not, because a talker is what a sentence begins with, cut
to two characters, and no name in the table of the constellations is as short.

## Main definitions

* `TableKeys.Listed` — the keys are those of the tables
* `DiagnosticStatus.SameButForOrder` — two statuses with the same values

## Main results

* `Run.length_talker` — the talkers have two characters
* `MonitoredNode.publishDiagnostics_order` — the order does not matter
-/

namespace UnicoreGnss

open CNumber Checked

/-! ### The talkers -/

/-- **The talker of a sentence** has two characters. -/
theorem UnicoreParser.nmeaParser_talker {first : Bytes} {fields : List Bytes}
    {parsed : Checked ParsedSentence} (h : nmeaParser first fields = some parsed) :
    Ensures (fun sentence => ∀ gsv ∈ sentence.gsv, gsv.talker.length = 2) parsed := by
  rw [nmeaParser] at h
  rcases eq_or_of_ite_eq_some h with rfl | h
  · simp only [parseGga]
    repeat refine Ensures.bind fun _ => ?_
    rintro gsv ⟨⟩
  rcases eq_or_of_ite_eq_some h with rfl | h
  · simp only [parseHdt]
    repeat refine Ensures.bind fun _ => ?_
    rintro gsv ⟨⟩
  rcases eq_or_of_ite_eq_some h with rfl | h
  · simp only [parseHpr]
    repeat refine Ensures.bind fun _ => ?_
    rintro gsv ⟨⟩
  rcases eq_or_of_ite_eq_some h with rfl | h
  · simp only [parseGsv]
    repeat refine Ensures.bind fun _ => ?_
    rintro gsv ⟨⟩
    dsimp only
    split_ifs with hlen
    · rw [List.length_take]
      omega
    · rfl
  · cases h

theorem UnicoreParser.unicoreParser_gsv {math : MathFunctions} {first : Bytes}
    {fields : List Bytes} {parsed : Checked ParsedSentence}
    (h : unicoreParser math first fields = some parsed) :
    Ensures (fun sentence => sentence.gsv = none) parsed := by
  cases unicoreLog_of_unicoreParser h with
  | bestnava =>
    simp only [parseBestnava]
    split
    all_goals
      repeat refine Ensures.bind fun _ => ?_
      rfl
  | _ =>
    simp only [parsePvtslna, parseRtkstatusa, parseRtcmstatusa, parseBestsata, parseSatsinfoa,
      parseAgca, parseHwstatusa, parseJamstatusa, parseFreqjamstatusa]
    repeat refine Ensures.bind fun _ => ?_
    rfl

theorem length_talker_of_parsedLine {math : MathFunctions} {line : Bytes}
    {sentence : ParsedSentence} (h : parsedLine math line = some sentence) :
    ∀ gsv ∈ sentence.gsv, gsv.talker.length = 2 := by
  rw [parsedLine, UnicoreParser.parseLine] at h
  split_ifs at h
  · obtain ⟨fields, hfields⟩ := exists_fields_of_checkedLine h
    obtain ⟨first, -, hparser⟩ := Option.bind_eq_some_iff.mp hfields
    exact UnicoreParser.nmeaParser_talker hparser
  · obtain ⟨fields, hfields⟩ := exists_fields_of_checkedLine h
    obtain ⟨first, -, hparser⟩ := Option.bind_eq_some_iff.mp hfields
    have hnone : sentence.gsv = none := UnicoreParser.unicoreParser_gsv hparser
    rw [hnone]
    rintro gsv ⟨⟩
  · cases h

/-- **The talkers of a run** have two characters. -/
theorem Run.length_talker (math : MathFunctions) (config : NodeConfig) (events : List NodeEvent)
    (talker : Bytes) (h : ((state math config events).gsvCounts talker).isSome = true) :
    talker.length = 2 := by
  induction events using List.reverseRecOn with
  | nil => cases h
  | append_singleton events event ih =>
    have hcounts : (state math config (events ++ [event])).gsvCounts =
        ((state math config events).storeStatus math event).gsvCounts := by
      rw [state_concat]
      show ((state math config events).step math config event).1.statuses.gsvCounts = _
      rw [NodeState.statuses_step]
      rfl
    rw [hcounts, NodeState.storeStatus] at h
    cases hsentence : event.sentence math with
    | none =>
      rw [hsentence] at h
      exact ih h
    | some parsed =>
      rw [hsentence, Option.elim_some] at h
      obtain ⟨line | frame, receivedAt, stamp⟩ := event
      · have htalkers := length_talker_of_parsedLine hsentence
        rw [if_neg (by simp [NodeEvent.isBinary])] at h
        cases hgsv : parsed.gsv with
        | none =>
          have hsame : ((state math config events).storeAsciiStatus parsed receivedAt).gsvCounts =
              (state math config events).gsvCounts := by
            simp only [NodeState.storeAsciiStatus, hgsv]
          rw [hsame] at h
          exact ih h
        | some gsv =>
          by_cases htalker : talker = gsv.talker
          · rw [htalker]
            exact htalkers gsv hgsv
          · have hsame : ((state math config events).storeAsciiStatus parsed receivedAt).gsvCounts
                talker = (state math config events).gsvCounts talker := by
              simp only [NodeState.storeAsciiStatus, hgsv, if_neg htalker]
            rw [hsame] at h
            exact ih h
      · rw [if_pos (by simp [NodeEvent.isBinary])] at h
        exact ih h

/-- Two talkers of two characters have different names. -/
theorem talkerLabel_inj {talker talker' : Bytes} (hlen : talker.length = 2)
    (hlen' : talker'.length = 2) (h : talkerLabel talker = talkerLabel talker') :
    talker = talker' := by
  have hnames : ∀ entry ∈ talkerNames, entry.2.length ≠ 2 := by decide
  have hinj : ∀ entry ∈ talkerNames, ∀ entry' ∈ talkerNames, entry.2 = entry'.2 →
      entry.1 = entry'.1 := by decide
  have hmem : ∀ {talker name : Bytes}, talkerNames.lookup talker = some name →
      (talker, name) ∈ talkerNames := by
    intro talker name hlookup
    obtain ⟨l₁, l₂, heq, -⟩ := List.lookup_eq_some_iff.mp hlookup
    rw [heq]
    exact List.mem_append_right _ List.mem_cons_self
  rw [talkerLabel, talkerLabel] at h
  cases hname : talkerNames.lookup talker with
  | none =>
    cases hname' : talkerNames.lookup talker' with
    | none => rwa [hname, hname'] at h
    | some name' =>
      rw [hname, hname', Option.getD_none, Option.getD_some] at h
      exact absurd (h ▸ hlen) (hnames _ (hmem hname'))
  | some name =>
    cases hname' : talkerNames.lookup talker' with
    | none =>
      rw [hname, hname', Option.getD_none, Option.getD_some] at h
      exact absurd (h ▸ hlen') (hnames _ (hmem hname))
    | some name' =>
      rw [hname, hname', Option.getD_some, Option.getD_some] at h
      exact hinj _ (hmem hname) _ (hmem hname') h

/-! ### The satellites -/

namespace NodeState

variable {config : NodeParameters} {s : NodeState} {now : SteadyTime}
  {talkers talkers' : List Bytes}

/-- The total is the sum of the counts, if none of the partial sums overflows. -/
theorem eq_sum_of_gsvTotal {total : ℤ} (h : s.gsvTotal config now talkers = some total) :
    total = (talkers.map (s.gsvCount config now)).sum := by
  induction talkers using List.reverseRecOn generalizing total with
  | nil => exact (Option.some.inj h).symm
  | append_singleton talkers talker ih =>
    rw [gsvTotal, List.foldlM_append, ← gsvTotal] at h
    obtain ⟨before, hbefore, h⟩ := Option.bind_eq_some_iff.mp h
    rw [List.foldlM_cons] at h
    obtain ⟨sum, hsum, h⟩ := Option.bind_eq_some_iff.mp h
    obtain rfl : sum = total := Option.some.inj h
    rw [intAdd, Option.ite_none_right_eq_some] at hsum
    rw [← Option.some.inj hsum.2, List.map_append, List.sum_append, List.map_singleton,
      List.sum_singleton, ih hbefore]

/-- Talkers of two characters do not overwrite each other. -/
theorem gsvVisible_perm (hlen : ∀ talker ∈ talkers, talker.length = 2)
    (hperm : talkers.Perm talkers') :
    s.gsvVisible config now talkers = s.gsvVisible config now talkers' := by
  rw [gsvVisible, gsvVisible]
  refine hperm.foldl_eq' ?_ _
  intro talker htalker talker' htalker' visible
  by_cases hsame : talker = talker'
  · rw [hsame]
  · refine Function.update_comm ?_ _ _ _
    intro hlabel
    exact hsame (talkerLabel_inj (hlen _ htalker) (hlen _ htalker') hlabel)

theorem visibleByConstellation_perm (hlen : ∀ talker ∈ talkers, talker.length = 2)
    (hperm : talkers.Perm talkers') :
    s.visibleByConstellation config now talkers = s.visibleByConstellation config now talkers' := by
  rw [visibleByConstellation, visibleByConstellation, gsvVisible_perm hlen hperm]

end NodeState

/-- Two statuses with the same values. -/
structure DiagnosticStatus.SameButForOrder (status status' : DiagnosticStatus) : Prop where
  level : status.level = status'.level
  name : status.name = status'.name
  message : status.message = status'.message
  hardwareId : status.hardwareId = status'.hardwareId
  values : status.values.Perm status'.values

namespace DiagnosticStatus.SameButForOrder

theorem refl (status : DiagnosticStatus) : status.SameButForOrder status :=
  ⟨rfl, rfl, rfl, rfl, List.Perm.refl _⟩

end DiagnosticStatus.SameButForOrder

/-- **The satellites** are reported alike. -/
theorem NodeState.gpsSatellitesStatus_perm {config : NodeParameters} {s : NodeState}
    {now : SteadyTime} {talkers talkers' : List Bytes} {status status' : DiagnosticStatus}
    (hlen : ∀ talker ∈ talkers, talker.length = 2) (hperm : talkers.Perm talkers')
    (h : s.gpsSatellitesStatus config now talkers = some status)
    (h' : s.gpsSatellitesStatus config now talkers' = some status') :
    status.SameButForOrder status' := by
  rw [gpsSatellitesStatus] at h h'
  by_cases hdisabled : (!config.enableSatelliteStatus) = true
  · rw [if_pos hdisabled] at h h'
    obtain rfl := Option.some.inj (h.symm.trans h')
    exact .refl status
  rw [if_neg hdisabled] at h h'
  obtain ⟨total, htotal, h⟩ := Option.bind_eq_some_iff.mp h
  obtain ⟨total', htotal', h'⟩ := Option.bind_eq_some_iff.mp h'
  obtain rfl : total = total' := by
    rw [eq_sum_of_gsvTotal htotal, eq_sum_of_gsvTotal htotal', (hperm.map _).sum_eq]
  obtain ⟨comparison, hcomparison, rfl⟩ := Option.map_eq_some_iff.mp h
  obtain ⟨comparison', hcomparison', rfl⟩ := Option.map_eq_some_iff.mp h'
  obtain rfl : comparison = comparison' := Option.some.inj (hcomparison.symm.trans hcomparison')
  have hvisible : s.visibleByConstellation config now talkers =
      s.visibleByConstellation config now talkers' := visibleByConstellation_perm hlen hperm
  have hempty : talkers.isEmpty = talkers'.isEmpty := hperm.isEmpty_eq
  have hsummary : s.gpsSatellitesSummary config now talkers total =
      s.gpsSatellitesSummary config now talkers' total := by
    simp only [gpsSatellitesSummary, hempty]
  have hused : s.constellationSummary config now talkers =
      s.constellationSummary config now talkers' := by
    rw [constellationSummary, constellationSummary, hvisible]
  have hvalues : s.satelliteValues config now talkers total =
      s.satelliteValues config now talkers' total := by
    rw [satelliteValues, satelliteValues, hused]
  have hconstellations : s.constellationValues config now talkers =
      s.constellationValues config now talkers' := by
    rw [constellationValues, constellationValues, hvisible]
  rw [hsummary, hvalues, hconstellations]
  refine ⟨rfl, rfl, rfl, rfl, ?_⟩
  have htalkers : (s.talkerValues config now talkers).Perm (s.talkerValues config now talkers') :=
    hperm.map _
  exact ((htalkers.append_right _).append_right _).append_right _

/-! ### All of them -/

/-- The keys are those of the tables, in any order. -/
structure TableKeys.Listed (config : NodeParameters) (data : NodeState) (now : SteadyTime)
    (keys : TableKeys) : Prop where
  talkers : Enumerates keys.talkers data.gsvCounts
  constellations : Enumerates keys.constellations
    (NodeState.countByConstellation (data.activeRawObservations config now))
  signals : Enumerates keys.signals
    (NodeState.countBySignal (data.activeRawObservations config now))

namespace MonitoredNode

/-- **The order of the hash tables does not matter.** In any run, and whatever the order in which
the tables list their keys, each status has the same level, the same message and the same values,
but for their order. -/
theorem publishDiagnostics_order (math : DiagnosticsMath) (config : NodeParameters)
    (callbacks : List NodeCallback) (now : SteadyTime) (stamp : RosTime) (keys keys' : TableKeys)
    (hkeys : keys.Listed config (run math config callbacks).2.node.data now)
    (hkeys' : keys'.Listed config (run math config callbacks).2.node.data now)
    (name : StatusName) (status status' : DiagnosticStatus)
    (h : ((run math config callbacks).2.publishDiagnostics math config now stamp keys).1.find?
      name = some status)
    (h' : ((run math config callbacks).2.publishDiagnostics math config now stamp keys').1.find?
      name = some status') :
    status.SameButForOrder status' := by
  rw [find?_publishDiagnostics] at h h'
  cases name with
  | satellites =>
    refine NodeState.gpsSatellitesStatus_perm ?_ (hkeys.talkers.perm hkeys'.talkers) h h'
    intro talker htalker
    have hentry := (hkeys.talkers.2 talker).mp htalker
    rw [data_run] at hentry
    exact Run.length_talker _ _ _ talker hentry
  | rawObservations =>
    have hperm : (run math config callbacks).2.node.data.gpsRawObservationStatus config now
          keys.constellations keys.signals =
        (run math config callbacks).2.node.data.gpsRawObservationStatus config now
          keys'.constellations keys'.signals :=
      NodeState.gpsRawObservationStatus_perm (hkeys.constellations.perm hkeys'.constellations)
        (hkeys.signals.perm hkeys'.signals)
    obtain rfl := Option.some.inj h
    obtain rfl := Option.some.inj h'
    rw [hperm]
    exact .refl _
  | _ =>
    -- no table comes into these
    obtain rfl := Option.some.inj (h.symm.trans h')
    exact .refl status

theorem publishDiagnostics_order_two_talkers :
    let math : DiagnosticsMath := ⟨⟨fun _ => 0, fun _ => 1⟩, fun x => x⟩
    let sentences := ascii "$GPGSV,1,1,07*7E" ++ [lf] ++ ascii "$GLGSV,1,1,05*60" ++ [lf]
    let callbacks : List NodeCallback :=
      [.serial (.pollSerial 0 ⟨3, 0, 0⟩ [(.bytes sentences, fun _ => (0, 0)),
        (.bytes [], fun _ => (0, 0))])]
    ∃ status status',
      ((run math {} callbacks).2.publishDiagnostics math {} 1 0
        ⟨[ascii "GP", ascii "GL"], [], []⟩).1.find? .satellites = some status ∧
      ((run math {} callbacks).2.publishDiagnostics math {} 1 0
        ⟨[ascii "GL", ascii "GP"], [], []⟩).1.find? .satellites = some status' ∧
      status.values ≠ status'.values ∧ status.SameButForOrder status' := by
  intro math sentences callbacks
  have hcounts : (run math {} callbacks).2.node.data.gsvCounts = fun talker =>
      if talker = ascii "GL" then some ⟨5, 0⟩
      else if talker = ascii "GP" then some ⟨7, 0⟩ else none := rfl
  have hlisted : ∀ talkers : List Bytes, talkers.Perm [ascii "GL", ascii "GP"] →
      TableKeys.Listed {} (run math {} callbacks).2.node.data 1 ⟨talkers, [], []⟩ := by
    intro talkers hperm
    refine ⟨?_, ⟨List.nodup_nil, fun _ => by simp; rfl⟩, ⟨List.nodup_nil, fun _ => by simp; rfl⟩⟩
    rw [hcounts]
    refine ⟨hperm.nodup_iff.mpr (by decide), ?_⟩
    intro talker
    rw [hperm.mem_iff, List.mem_pair]
    dsimp only
    split_ifs with hgl hgp <;> simp [*]
  let data := (run math {} callbacks).2.node.data
  have hdiffer : (data.gpsSatellitesStatus {} 1 [ascii "GP", ascii "GL"]).map (·.values) ≠
      (data.gpsSatellitesStatus {} 1 [ascii "GL", ascii "GP"]).map (·.values) := by
    decide +kernel
  obtain ⟨status, hsome⟩ := Option.isSome_iff_exists.mp
    (show (data.gpsSatellitesStatus {} 1 [ascii "GP", ascii "GL"]).isSome by decide +kernel)
  obtain ⟨status', hsome'⟩ := Option.isSome_iff_exists.mp
    (show (data.gpsSatellitesStatus {} 1 [ascii "GL", ascii "GP"]).isSome by decide +kernel)
  have hstatus := (find?_publishDiagnostics math {} (run math {} callbacks).2 1 0
    ⟨[ascii "GP", ascii "GL"], [], []⟩ .satellites).trans hsome
  have hstatus' := (find?_publishDiagnostics math {} (run math {} callbacks).2 1 0
    ⟨[ascii "GL", ascii "GP"], [], []⟩ .satellites).trans hsome'
  rw [hsome, hsome'] at hdiffer
  refine ⟨status, status', hstatus, hstatus', fun hvalues => hdiffer (congrArg some hvalues), ?_⟩
  exact publishDiagnostics_order math {} callbacks 1 0 _ _ (hlisted _ (List.Perm.swap _ _ _))
    (hlisted _ (List.Perm.refl _)) .satellites _ _ hstatus hstatus'

end MonitoredNode

end UnicoreGnss
