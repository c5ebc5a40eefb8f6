/-
# A signaling message in parts

`websocket_event_handler` of `esp32-firmware/main/webrtc_stream.c` hands the bytes of every
`WEBSOCKET_EVENT_DATA` of a text frame to `handle_ws_message`, as a message of its own: "One event
carries a whole signaling message".  The client delivers a frame in as many events as it takes to
read it, each of at most `buffer_size` bytes and with its place in the frame, which the handler
does not look at.

**A message is acted on once and as a whole exactly when** one event carries all of it, or it says
nothing to the device and neither does any part of it (`acts_once_iff`).  An offer that is longer
than the buffer is therefore lost however it is delivered (`lost_of_length`).

"Once" has two sides.  The parts of a message must not be taken for messages, and an event that
carries all of it must be the only one that says anything.  A part of a message is hardly ever
JSON, and then it is dropped in silence; but a part that happens to be a JSON object with a `type`
of its own is acted on (`split_misread`).

What `handle_ws_message` does depends on what it finds, the state of the peer connection and the
heap.  Each event is handled in an environment of its own, so the condition asks only what the
texts and the heap decide: whether a text is a signal, and whether its copy can be allocated.
-/
import Surveillance.Firmware.Candidates
import Surveillance.Firmware.CJsonRead

namespace Surveillance

namespace Firmware

namespace SignalingData

/-! ## 1. `handle_ws_message`

The actions of a call are a list, and doing nothing is the empty one. -/

/-- `esp_peer_state_t`, as far as `handle_offer` tells the states apart. -/
inductive PeerState where
  | closed
  | disconnected
  | newConnection
  | other
  deriving DecidableEq

/-- What is done with a message. -/
inductive Action where
  /-- `esp_peer_disconnect`. -/
  | disconnect
  /-- `esp_peer_update_ice_info`. -/
  | updateIceInfo (servers : List IceServer)
  /-- `esp_peer_new_connection`. -/
  | newConnection
  /-- `esp_peer_send_msg`, of an SDP. -/
  | sendSdp (sdp : List Byte)
  /-- `esp_peer_send_msg`, of a candidate. -/
  | sendCandidate (candidate : List Byte)
  /-- `s_dc_open = false`. -/
  | clearDcOpen
  deriving DecidableEq

/-- What a call of the handler finds, and what its own calls return. -/
structure Env where
  /-- `malloc` finds this many bytes. -/
  heap : Nat → Bool
  peerState : PeerState
  /-- `esp_peer_new_connection` returns `ESP_PEER_ERR_NONE`. -/
  newConnectionOk : Bool
  /-- `esp_peer_send_msg` of the SDP does. -/
  sendSdpOk : Bool

/-- cJSON, which does not take an empty text for JSON. -/
structure CJsonLib where
  /-- `cJSON_Parse`, of the bytes before the NUL. -/
  parse : List Byte → Option CJson
  getObjectItem : GetObjectItem
  parse_nil : parse [] = none

/-- `valuestring` of an item of an object, where it is a string. -/
def CJsonLib.text (lib : CJsonLib) (root : CJson) (key : String) : Option CStr :=
  stringItem (member lib.getObjectItem (some root) key)

/-- `feed_embedded_candidates`; it takes no more rounds than the SDP has bytes. -/
def embeddedActions (sdp : CStr) : List Action :=
  ((feedEmbeddedCandidates (sdp.val.length + 1) sdp.val).getD []).map .sendCandidate

def handleOffer (lib : CJsonLib) (env : Env) (root : CJson) : List Action :=
  match lib.text root "sdp" with
  | none => []
  | some sdp =>
    let stale := env.peerState = .other
    let servers := buildIceServers lib.getObjectItem (member lib.getObjectItem (some root) "stun")
      (member lib.getObjectItem (some root) "turn")
    (if stale then [.disconnect] else []) ++
      [.updateIceInfo servers, .newConnection] ++
      if env.newConnectionOk then
        .sendSdp sdp.val :: if env.sendSdpOk then embeddedActions sdp else []
      else []

/-- `handle_ws_message`. -/
def handleWsMessage (lib : CJsonLib) (env : Env) (data : List Byte) : List Action :=
  if env.heap (data.length + 1) then
    match lib.parse (cstr data) with
    | none => []
    | some root =>
      match lib.text root "type" with
      | none => []
      | some type =>
        if type.val = ascii "offer" then handleOffer lib env root
        else if type.val = ascii "ice" then
          match lib.text root "candidate" with
          | some candidate => [.sendCandidate candidate.val]
          | none => []
        else if type.val = ascii "viewer_gone" then [.disconnect, .clearDcOpen]
        else []
  else []

/-! ## 2. Data events

An event has its place in the payload, which the model has and the handler does not read. -/

/-- `ws_transport_opcodes_t`. -/
inductive Opcode where
  | cont
  | text
  | binary
  | close
  | ping
  | pong
  deriving DecidableEq

/-- `esp_websocket_event_data_t`, of a `WEBSOCKET_EVENT_DATA`. -/
structure WsData where
  opCode : Opcode
  data : List Byte
  payloadOffset : Nat
  payloadLen : Nat

/-- An event, with what its handler finds. -/
structure Handled where
  env : Env
  event : WsData

/-- `WEBSOCKET_EVENT_DATA`. -/
def Handled.actions (lib : CJsonLib) (h : Handled) : List Action :=
  if h.event.opCode ≠ .text then [] else handleWsMessage lib h.env h.event.data

/-- `buffer_size`. -/
def bufferSize : Nat := 8 * 1024

/-- Each event begins where the one before ends, and the last one ends the payload. -/
def Consecutive (payloadLen : Nat) : Nat → List Handled → Prop
  | offset, [] => offset = payloadLen
  | offset, h :: rest =>
    h.event.payloadOffset = offset ∧ h.event.payloadLen = payloadLen ∧
      Consecutive payloadLen (offset + h.event.data.length) rest

/-- How the client delivers a text message: in any number of events, each with as much as its buffer
holds, in order and complete, each in whatever state of the device it finds. -/
structure Delivery where
  msg : List Byte
  events : List Handled
  nonempty : events ≠ []
  text : ∀ h ∈ events, h.event.opCode = .text
  fits : ∀ h ∈ events, h.event.data.length ≤ bufferSize
  consecutive : Consecutive msg.length 0 events
  whole : (events.map fun h => h.event.data).flatten = msg

/-- The message is acted on once, as `handle_ws_message` acts on the whole of it, and a fragment is
not acted on.  "Once" is said of the events: one of them does what the message says, and all others
do nothing. -/
structure ActsOnce (lib : CJsonLib) (d : Delivery) : Prop where
  once : ∃ front h back, d.events = front ++ h :: back ∧
    h.actions lib = handleWsMessage lib h.env d.msg ∧ ∀ o ∈ front ++ back, o.actions lib = []
  fragments : ∀ h ∈ d.events, h.event.data ≠ d.msg → h.actions lib = []

/-! ## 3. What says something to the device

A text is heard if `handle_ws_message` would do anything at all about it. -/

/-- An offer with an SDP, an ICE message with a candidate, or `viewer_gone`. -/
def IsSignal (lib : CJsonLib) (root : CJson) : Prop :=
  ∃ type, lib.text root "type" = some type ∧
    (type.val = ascii "offer" ∧ lib.text root "sdp" ≠ none ∨
      type.val = ascii "ice" ∧ lib.text root "candidate" ≠ none ∨
      type.val = ascii "viewer_gone")

/-- A text that is a signal, with room on the heap for its copy. -/
def Heard (lib : CJsonLib) (env : Env) (data : List Byte) : Prop :=
  env.heap (data.length + 1) = true ∧ ∃ root, lib.parse (cstr data) = some root ∧ IsSignal lib root

theorem handleOffer_eq_nil_iff (lib : CJsonLib) (env : Env) (root : CJson) :
    handleOffer lib env root = [] ↔ lib.text root "sdp" = none := by
  unfold handleOffer
  cases lib.text root "sdp" with
  | none => exact iff_of_true rfl rfl
  | some sdp => simp

/-- **What the device acts on.** -/
theorem handleWsMessage_eq_nil_iff (lib : CJsonLib) (env : Env) (data : List Byte) :
    handleWsMessage lib env data = [] ↔ ¬Heard lib env data := by
  unfold handleWsMessage
  split
  · next hheap =>
    rw [Heard, hheap, eq_self, true_and]
    cases hparse : lib.parse (cstr data) with
    | none => simp
    | some root =>
      have hroot : (∃ r, some root = some r ∧ IsSignal lib r) ↔ IsSignal lib root := by simp
      rw [hroot]
      dsimp only
      cases htype : lib.text root "type" with
      | none => simp [IsSignal, htype]
      | some type =>
        have hsignal : IsSignal lib root ↔
            (type.val = ascii "offer" ∧ lib.text root "sdp" ≠ none ∨
              type.val = ascii "ice" ∧ lib.text root "candidate" ≠ none ∨
              type.val = ascii "viewer_gone") := by
          simp [IsSignal, htype]
        rw [hsignal]
        dsimp only
        split
        · next hoffer =>
          rw [handleOffer_eq_nil_iff, hoffer]
          simp [show ascii "offer" ≠ ascii "ice" by decide,
            show ascii "offer" ≠ ascii "viewer_gone" by decide]
        · next hoffer =>
          split
          · next hice =>
            rw [hice] at hoffer ⊢
            cases lib.text root "candidate" with
            | none => simp [hoffer, show ascii "ice" ≠ ascii "viewer_gone" by decide]
            | some candidate => simp
          · next hice =>
            split
            · next hgone => simp [hgone]
            · next hgone => simp [hoffer, hice, hgone]
  · next hheap => exact iff_of_true rfl fun h => hheap h.1

/-! ## 4. When a message is acted on once

Beside an event that carries the whole message there can be empty ones, which no one hears. -/

theorem Delivery.actions_of_mem {d : Delivery} {h : Handled} (hmem : h ∈ d.events)
    (lib : CJsonLib) : h.actions lib = handleWsMessage lib h.env h.event.data := by
  rw [Handled.actions, if_neg (not_not_intro (d.text h hmem))]

/-- An empty event does nothing. -/
theorem handleWsMessage_nil (lib : CJsonLib) (env : Env) : handleWsMessage lib env [] = [] := by
  rw [handleWsMessage_eq_nil_iff]
  rintro ⟨-, root, hparse, -⟩
  rw [cstr, List.takeWhile_nil, lib.parse_nil] at hparse
  cases hparse

/-- An event, and the ones around it. -/
theorem Delivery.mem_events_iff {d : Delivery} {front back : List Handled} {h o : Handled}
    (hevents : d.events = front ++ h :: back) : o ∈ d.events ↔ o = h ∨ o ∈ front ++ back := by
  rw [hevents, List.perm_middle.mem_iff, List.mem_cons]

/-- Next to an event that carries the whole message there are only empty ones. -/
theorem Delivery.rest_of_whole {d : Delivery} {front back : List Handled} {h : Handled}
    (hevents : d.events = front ++ h :: back) (hdata : h.event.data = d.msg) :
    ∀ o ∈ front ++ back, o.event.data = [] := by
  have hsplit : (front.map fun h => h.event.data).flatten ++ (h.event.data ++
      (back.map fun h => h.event.data).flatten) = d.msg := by
    have hwhole := d.whole
    rw [hevents] at hwhole
    simpa using hwhole
  have hlen := congrArg List.length hsplit
  rw [List.length_append, List.length_append, hdata] at hlen
  have hfront : (front.map fun h => h.event.data).flatten = [] :=
    List.length_eq_zero_iff.mp (by omega)
  have hback : (back.map fun h => h.event.data).flatten = [] :=
    List.length_eq_zero_iff.mp (by omega)
  intro o ho
  rcases List.mem_append.mp ho with ho | ho
  · exact List.flatten_eq_nil_iff.mp hfront _ (List.mem_map_of_mem ho)
  · exact List.flatten_eq_nil_iff.mp hback _ (List.mem_map_of_mem ho)

/-- **A message is acted on once and as a whole exactly when** one event carries all of it, or
neither it nor any part of it is a signal.  In the second case nothing is done, as nothing would
have been; in every other the message is lost, and possibly replaced. -/
theorem acts_once_iff (lib : CJsonLib) (d : Delivery) :
    ActsOnce lib d ↔ (∃ h ∈ d.events, h.event.data = d.msg) ∨
      (∀ h ∈ d.events, ¬Heard lib h.env h.event.data) ∧
        ∃ h ∈ d.events, ¬Heard lib h.env d.msg := by
  constructor
  · intro hacts
    by_cases hone : ∃ h ∈ d.events, h.event.data = d.msg
    · exact .inl hone
    · have hquiet : ∀ h ∈ d.events, h.actions lib = [] := fun h hmem =>
        hacts.fragments h hmem fun hdata => hone ⟨h, hmem, hdata⟩
      refine .inr ⟨fun h hmem => ?_, ?_⟩
      · rw [← handleWsMessage_eq_nil_iff, ← d.actions_of_mem hmem]
        exact hquiet h hmem
      · obtain ⟨front, h, back, hevents, hact, -⟩ := hacts.once
        have hmem := (Delivery.mem_events_iff hevents).mpr (.inl rfl)
        refine ⟨h, hmem, ?_⟩
        rw [← handleWsMessage_eq_nil_iff, ← hact]
        exact hquiet h hmem
  · rintro (⟨h, hmem, hdata⟩ | ⟨hquiet, h, hmem, hmsg⟩)
    · obtain ⟨front, back, hevents⟩ := List.append_of_mem hmem
      have hrest := d.rest_of_whole hevents hdata
      have hsilent : ∀ o ∈ d.events, o.event.data = [] → o.actions lib = [] := by
        intro o ho hnil
        rw [d.actions_of_mem ho, hnil, handleWsMessage_nil]
      refine ⟨⟨front, h, back, hevents, ?_, fun o ho => ?_⟩, fun o ho hne => ?_⟩
      · rw [d.actions_of_mem hmem, hdata]
      · exact hsilent o ((Delivery.mem_events_iff hevents).mpr (.inr ho)) (hrest o ho)
      · rcases (Delivery.mem_events_iff hevents).mp ho with rfl | hother
        · exact absurd hdata hne
        · exact hsilent o ho (hrest o hother)
    · have hnone : ∀ o ∈ d.events, o.actions lib = [] := fun o ho => by
        rw [d.actions_of_mem ho, handleWsMessage_eq_nil_iff]
        exact hquiet o ho
      obtain ⟨front, back, hevents⟩ := List.append_of_mem hmem
      refine ⟨⟨front, h, back, hevents, ?_, fun o ho => hnone o ?_⟩, fun o ho _ => hnone o ho⟩
      · rw [hnone h hmem, eq_comm, handleWsMessage_eq_nil_iff]
        exact hmsg
      · exact (Delivery.mem_events_iff hevents).mpr (.inr ho)

/-- **A signal that is longer than the buffer is lost**, or a part of it is taken for another one,
however it is delivered. -/
theorem lost_of_length {lib : CJsonLib} {d : Delivery} (hlen : bufferSize < d.msg.length)
    (hheard : ∀ h ∈ d.events, Heard lib h.env d.msg) : ¬ActsOnce lib d := by
  intro hacts
  obtain ⟨front, h, back, hevents, hact, -⟩ := hacts.once
  have hmem := (Delivery.mem_events_iff hevents).mpr (.inl rfl)
  have hne : h.event.data ≠ d.msg := fun hdata =>
    absurd (hdata ▸ d.fits h hmem) (Nat.not_le_of_lt hlen)
  rw [hacts.fragments h hmem hne, eq_comm, handleWsMessage_eq_nil_iff] at hact
  exact hact (hheard h hmem)

/-! ## 5. Any message, in any parts

Any text can arrive in any parts, so the condition is not empty talk. -/

/-- The events of these parts. -/
def eventsFrom (env : Env) (payloadLen : Nat) : Nat → List (List Byte) → List Handled
  | _, [] => []
  | offset, part :: parts =>
    ⟨env, .text, part, offset, payloadLen⟩ :: eventsFrom env payloadLen (offset + part.length) parts

theorem data_eventsFrom (env : Env) (payloadLen offset : Nat) (parts : List (List Byte)) :
    (eventsFrom env payloadLen offset parts).map (fun h => h.event.data) = parts := by
  induction parts generalizing offset with
  | nil => rfl
  | cons part parts ih => rw [eventsFrom, List.map_cons, ih]

theorem text_eventsFrom (env : Env) (payloadLen offset : Nat) (parts : List (List Byte)) :
    ∀ h ∈ eventsFrom env payloadLen offset parts, h.event.opCode = .text := by
  induction parts generalizing offset with
  | nil => nofun
  | cons part parts ih => exact List.forall_mem_cons.mpr ⟨rfl, ih _⟩

theorem consecutive_eventsFrom (env : Env) (offset : Nat) (parts : List (List Byte)) :
    Consecutive (offset + parts.flatten.length) offset
      (eventsFrom env (offset + parts.flatten.length) offset parts) := by
  induction parts generalizing offset with
  | nil => exact (Nat.add_zero offset).symm
  | cons part parts ih =>
    have hrest := ih (offset + part.length)
    rw [Nat.add_assoc, ← List.length_append, ← List.flatten_cons] at hrest
    exact ⟨rfl, rfl, hrest⟩

/-- A message that is read in these parts. -/
def Delivery.ofParts (env : Env) (parts : List (List Byte)) (hne : parts ≠ [])
    (hfits : ∀ part ∈ parts, part.length ≤ bufferSize) : Delivery where
  msg := parts.flatten
  events := eventsFrom env parts.flatten.length 0 parts
  nonempty := by
    cases parts with
    | nil => exact absurd rfl hne
    | cons part parts => nofun
  text := text_eventsFrom env _ 0 parts
  fits := by
    intro h hmem
    refine hfits _ ?_
    rw [← data_eventsFrom env parts.flatten.length 0 parts]
    exact List.mem_map_of_mem hmem
  consecutive := by
    have h := consecutive_eventsFrom env 0 parts
    rwa [Nat.zero_add] at h
  whole := by rw [data_eventsFrom]

/-- cJSON, on texts of ASCII characters. -/
def asciiLib : CJsonLib where
  parse text := (Json.parse (String.ofList (text.map fun b => Char.ofNat b.toNat))).map
    (CJson.ofJson utf8Text)
  getObjectItem := getItem
  parse_nil := by decide

/-- An idle device whose calls succeed. -/
def idle : Env := ⟨fun _ => true, .newConnection, true, true⟩

/-- `viewer_gone`, in two parts. -/
def gone : Delivery :=
  .ofParts idle [ascii "\x7b\"type\":\"viewer", ascii "_gone\"\x7d"] (by decide) (by decide)

/-- A message whose second part looks like `viewer_gone`. -/
def nested : Delivery :=
  .ofParts idle [ascii "\x7b\"type\":\"ice\",\"candidate\":",
    ascii "\x7b\"type\":\"viewer_gone\"\x7d", ascii "\x7d"] (by decide) (by decide)

/-- **A message that is lost, and a part that is taken for a message.** -/
theorem split_misread : ¬ActsOnce asciiLib gone ∧ ¬ActsOnce asciiLib nested := by
  have hgone : (gone.events.all fun h => h.actions asciiLib == [] &&
      handleWsMessage asciiLib h.env gone.msg == [.disconnect, .clearDcOpen]) = true := by
    decide +kernel
  have hnested : (nested.events.any fun h => h.event.data != nested.msg &&
      h.actions asciiLib == [.disconnect, .clearDcOpen]) = true := by
    decide +kernel
  constructor
  · intro hacts
    obtain ⟨front, h, back, hevents, hact, -⟩ := hacts.once
    have hboth := List.all_eq_true.mp hgone h (by simp [hevents])
    rw [Bool.and_eq_true, beq_iff_eq, beq_iff_eq] at hboth
    rw [hboth.1, hboth.2] at hact
    cases hact
  · intro hacts
    obtain ⟨h, hmem, hboth⟩ := List.any_eq_true.mp hnested
    rw [Bool.and_eq_true, bne_iff_ne, beq_iff_eq] at hboth
    rw [hacts.fragments h hmem hboth.1] at hboth
    cases hboth.2

end SignalingData

end Firmware

end Surveillance
