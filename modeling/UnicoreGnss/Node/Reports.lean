import Mathlib.Data.List.ReduceOption
import UnicoreGnss.Node.Monitor

/-!
# Reading the diagnostics

A subscriber to the diagnostics looks a status up by its name and a value by its key. Every array
has all nine statuses, each under a name of its own, so what is found under a name is what the
function of that status has made.

## Main definitions

* `StatusName` — the nine statuses
* `DiagnosticArray.find?`, `DiagnosticStatus.value?` — looking up

## Main results

* `MonitoredNode.find?_publishDiagnostics` — what is found under a name
-/

namespace UnicoreGnss

open CNumber

/-- The nine statuses. -/
inductive StatusName where
  | fix
  | satellites
  | rtk
  | ntrip
  | rf
  | hardware
  | jamming
  | rawObservations
  | parser
  deriving DecidableEq, Repr

namespace StatusName

/-- In the order of `publish_diagnostics`. -/
def all : List StatusName :=
  [fix, satellites, rtk, ntrip, rf, hardware, jamming, rawObservations, parser]

/-- The name that a status is published under. -/
def text : StatusName → String
  | fix => "GPS: fix"
  | satellites => "GPS: satellites"
  | rtk => "GPS: RTK"
  | ntrip => "GPS: NTRIP/RTCM"
  | rf => "GPS: rf"
  | hardware => "GPS: hardware"
  | jamming => "GPS: jamming"
  | rawObservations => "GPS: raw observations"
  | parser => "GPS: parser"

theorem mem_all (name : StatusName) : name ∈ all := by cases name <;> decide

theorem nodup_all : all.Nodup := by decide

theorem ascii_text_inj {name name' : StatusName} (h : ascii name.text = ascii name'.text) :
    name = name' := by
  have hall : ∀ name ∈ all, ∀ name' ∈ all, ascii name.text = ascii name'.text → name = name' := by
    decide
  exact hall name (mem_all name) name' (mem_all name') h

end StatusName

/-! ### Looking up -/

namespace DiagnosticStatus

/-- The value under a key. -/
def value? (status : DiagnosticStatus) (key : Bytes) : Option Bytes :=
  (status.values.find? fun item => item.key = key).map KeyValue.value

end DiagnosticStatus

namespace DiagnosticArray

/-- The status of a name. -/
def find? (array : DiagnosticArray) (name : StatusName) : Option DiagnosticStatus :=
  array.status.reduceOption.find? fun status => status.name = ascii name.text

end DiagnosticArray

/-- A number as it is written with `std::to_string`. -/
def readDecimal (text : Bytes) : Option ℕ := (scanInteger 10 text).map fun scanned => scanned.2.1

theorem readDecimal_decimal (n : ℕ) : readDecimal (decimal n) = some n := by
  have hscan := (scanInteger_digitsText (by decide : 1 < 10) (by decide) n).1
  rw [readDecimal, decimal, hscan, Option.map_some]

namespace MonitoredNode

variable (math : DiagnosticsMath) (config : NodeParameters) (m : MonitoredNode)
  (now : SteadyTime) (stamp : RosTime) (keys : TableKeys)

/-- The status of a name. -/
def status : StatusName → Option DiagnosticStatus
  | .fix => some (m.node.data.gpsFixStatus math config.toDiagnosticsConfig
      (m.node.data.activeFix config.toNodeConfig now) m.node.serial.isOpen now)
  | .satellites => m.node.data.gpsSatellitesStatus config now keys.talkers
  | .rtk => m.node.data.gpsRtkStatus config now
  | .ntrip => m.node.data.gpsNtripStatus config now m.node.rtcmMessageCount m.node.rtcmByteCount
      (m.pruneHistory now).node.rtcmHistory
  | .rf => some (m.node.data.gpsRfStatus config now)
  | .hardware => some (m.node.data.gpsHardwareStatus config now)
  | .jamming => m.node.data.gpsJammingStatus config now
  | .rawObservations =>
    some (m.node.data.gpsRawObservationStatus config now keys.constellations keys.signals)
  | .parser => some (m.gpsParserStatus config now)

theorem statuses_eq :
    m.statuses math config now keys = StatusName.all.map (m.status math config now keys) := rfl

/-- **Each status bears its name.** -/
theorem name_of_status {name : StatusName} {status : DiagnosticStatus}
    (h : m.status math config now keys name = some status) : status.name = ascii name.text := by
  cases name with
  | fix =>
    obtain rfl := Option.some.inj h
    rfl
  | satellites =>
    rw [MonitoredNode.status, NodeState.gpsSatellitesStatus] at h
    by_cases hdisabled : (!config.enableSatelliteStatus) = true
    · rw [if_pos hdisabled] at h
      obtain rfl := Option.some.inj h
      rfl
    · rw [if_neg hdisabled] at h
      obtain ⟨total, -, h⟩ := Option.bind_eq_some_iff.mp h
      obtain ⟨comparison, -, rfl⟩ := Option.map_eq_some_iff.mp h
      rfl
  | rtk =>
    rw [MonitoredNode.status, NodeState.gpsRtkStatus] at h
    by_cases hdisabled : (!config.enableRtkStatus) = true
    · rw [if_pos hdisabled] at h
      obtain rfl := Option.some.inj h
      rfl
    · rw [if_neg hdisabled] at h
      obtain ⟨comparison, -, rfl⟩ := Option.map_eq_some_iff.mp h
      rfl
  | ntrip =>
    obtain ⟨comparison, -, rfl⟩ := Option.map_eq_some_iff.mp h
    rfl
  | rf =>
    obtain rfl := Option.some.inj h
    rw [NodeState.gpsRfStatus]
    split_ifs <;> rfl
  | hardware =>
    obtain rfl := Option.some.inj h
    rw [NodeState.gpsHardwareStatus]
    split_ifs <;> rfl
  | jamming =>
    rw [MonitoredNode.status, NodeState.gpsJammingStatus] at h
    by_cases hdisabled : (!config.enableJammingStatus) = true
    · rw [if_pos hdisabled] at h
      obtain rfl := Option.some.inj h
      rfl
    · rw [if_neg hdisabled] at h
      obtain ⟨comparison, -, rfl⟩ := Option.map_eq_some_iff.mp h
      rfl
  | rawObservations =>
    obtain rfl := Option.some.inj h
    rw [NodeState.gpsRawObservationStatus]
    split_ifs <;> rfl
  | parser =>
    obtain rfl := Option.some.inj h
    rfl

/-- Looking a status up by its name among some that bear their names. -/
theorem find?_reduceOption {f : StatusName → Option DiagnosticStatus}
    (hname : ∀ {name status}, f name = some status → status.name = ascii name.text)
    {names : List StatusName} (hnames : names.Nodup) {name : StatusName} (hmem : name ∈ names) :
    (names.map f).reduceOption.find? (fun status => status.name = ascii name.text) = f name := by
  induction names with
  | nil => cases hmem
  | cons first names ih =>
    rw [List.nodup_cons] at hnames
    obtain ⟨hfirst, hnames⟩ := hnames
    rw [List.map_cons]
    rcases List.mem_cons.mp hmem with rfl | hmem
    · cases hf : f name with
      | some status =>
        rw [List.reduceOption_cons_of_some, List.find?_cons_of_pos (by simpa using hname hf)]
      | none =>
        rw [List.reduceOption_cons_of_none, List.find?_eq_none]
        intro status hstatus
        rw [List.reduceOption_mem_iff, List.mem_map] at hstatus
        obtain ⟨name', hmem', hf'⟩ := hstatus
        intro hsame
        have hnames' := StatusName.ascii_text_inj ((hname hf').symm.trans (of_decide_eq_true hsame))
        exact hfirst (hnames' ▸ hmem')
    · have hne : name ≠ first := fun heq => hfirst (heq ▸ hmem)
      cases hf : f first with
      | some status =>
        rw [List.reduceOption_cons_of_some, List.find?_cons_of_neg, ih hnames hmem]
        rw [hname hf, decide_eq_true_eq]
        intro hsame
        exact hne (StatusName.ascii_text_inj hsame).symm
      | none => rw [List.reduceOption_cons_of_none, ih hnames hmem]

/-- **What is found under a name** is the status of that name. -/
theorem find?_publishDiagnostics (name : StatusName) :
    (m.publishDiagnostics math config now stamp keys).1.find? name =
      m.status math config now keys name := by
  show (m.statuses math config now keys).reduceOption.find? _ = _
  rw [statuses_eq]
  exact find?_reduceOption (m.name_of_status math config now keys) StatusName.nodup_all
    (StatusName.mem_all name)

end MonitoredNode

end UnicoreGnss
