import UnicoreGnss.Parser.Data

/-!
# The dispatcher of binary frames

`UnicoreBinaryDispatcher` in `src/unicore_transport.cpp`: it names the messages it knows and keeps
the recent ids of those it does not.

## Main definitions

* `UnicoreBinaryDispatcher.knownMessageName` — the table of names
* `UnicoreBinaryDispatcher.dispatch`
-/

namespace UnicoreGnss

/-- The verdict on a frame. -/
structure UnicoreBinaryDispatchResult where
  knownMessage : Bool := false
  messageName : Bytes := []
  deriving DecidableEq, Repr

/-- What the dispatcher remembers of the frames. -/
structure UnicoreBinaryDispatchCounters where
  dispatchedFrames : ℕ := 0
  unknownFrames : ℕ := 0
  lastMessageId : Option UInt16 := none
  recentUnknownMessageIds : List UInt16 := []
  deriving DecidableEq, Repr

namespace UnicoreBinaryDispatcher

/-- `kRecentUnknownIdsLimit` -/
def recentUnknownIdsLimit : ℕ := 8

/-- `kKnownMessageIds` -/
def knownMessageIds : List (UInt16 × Bytes) :=
  [(138, ascii "OBSVMCMP"), (218, ascii "HWSTATUS"), (220, ascii "AGC"), (240, ascii "BESTNAVXYZ"),
    (242, ascii "BESTNAVXYZH"), (509, ascii "RTKSTATUS"), (511, ascii "JAMSTATUS"),
    (519, ascii "FREQJAMSTATUS"), (954, ascii "STADOP"), (972, ascii "UNIHEADING"),
    (1021, ascii "PVTSLN"), (1041, ascii "BESTSAT"), (2116, ascii "SPPNAVH"),
    (2117, ascii "ADRNAVH"), (2118, ascii "BESTNAV"), (2119, ascii "BESTNAVH"),
    (2124, ascii "SATSINFO"), (2125, ascii "RTCMSTATUS")]

/-- The name in the table; empty if the id is not in it. -/
def knownMessageName (messageId : UInt16) : Bytes := (knownMessageIds.lookup messageId).getD []

/-- The recent ids once an unknown one is seen: the eldest makes room for the newest. -/
def pushUnknown (ids : List UInt16) (messageId : UInt16) : List UInt16 :=
  if messageId ∈ ids then ids
  else if (ids ++ [messageId]).length > recentUnknownIdsLimit then (ids ++ [messageId]).tail
  else ids ++ [messageId]

/-- `dispatch`: the name of a frame's message, and the counters after it. -/
def dispatch (counters : UnicoreBinaryDispatchCounters) (frame : UnicoreBinaryFrame) :
    UnicoreBinaryDispatchResult × UnicoreBinaryDispatchCounters :=
  let messageName := knownMessageName frame.messageId
  let knownMessage := messageName ≠ []
  let counters := { counters with
    dispatchedFrames := counters.dispatchedFrames + 1
    lastMessageId := some frame.messageId }
  ({ knownMessage, messageName },
    if knownMessage then counters
    else { counters with
      unknownFrames := counters.unknownFrames + 1
      recentUnknownMessageIds := pushUnknown counters.recentUnknownMessageIds frame.messageId })

end UnicoreBinaryDispatcher

end UnicoreGnss
