/-
# What a viewer socket without the claim can still do

A rejected or evicted viewer socket stays attached until its close event: `close()` only begins
the closing handshake, and until the browser has answered it the platform goes on delivering what
was sent before.  `devicehub.ts` knows that, and says so itself where it looks a viewer up
(`viewerSocket`: "role alone is not enough: the socket's sid must match the stored claim").

The viewer branch of `webSocketMessage` does not make that test.  It is chosen by the role alone,
and then an `offer` or an `ice` goes to the device, whose session with the viewer that does hold
the claim it replaces or disturbs, and a `ping` stamps the activity of a viewer who is not there.
So whether such a socket's message is inert is decided by the message and by the device, and not
at all by who holds the claim.

`lingering_inert_iff` says exactly when: the condition is on the state before the message, and it
is the same for a socket that was turned away, for one that was evicted, and for one whose device
has left.  `busy_viewer_offer_forwarded` is the run that shows what is lost: a viewer that was
told "busy" drives the device of the one who watches.
-/
import Surveillance.DeviceHub.Handlers

namespace Surveillance

namespace DeviceHub

/-! ## 1. Messages by recipient

What a step sends is read off the socket that receives it, since an inert step may still send
nothing to a socket that is closed. -/

/-- What has been sent to one socket, oldest first. -/
def sentTo (h : DeviceHub) (ws : WsId) : List Msg := (h.sent.filter (·.1 = ws)).map (·.2)

theorem delivery_of_open {h : DeviceHub} {ws : WsId} {msg : Msg} (ho : h.IsOpen ws) :
    h.delivery (some ws) msg = [(ws, msg)] := by
  simp [delivery, ho]

theorem delivery_of_not_open {h : DeviceHub} {ws : Option WsId} {msg : Msg}
    (ho : ∀ w, ws = some w → ¬ h.IsOpen w) : h.delivery ws msg = [] := by
  refine List.eq_nil_iff_forall_not_mem.mpr ?_
  intro p hp
  obtain ⟨hw, -, ho'⟩ := mem_delivery.mp hp
  exact ho p.1 hw ho'

theorem sentTo_safeSend_of_open {h : DeviceHub} {ws : WsId} {msg : Msg} (ho : h.IsOpen ws) :
    (h.safeSend (some ws) msg).sentTo ws = h.sentTo ws ++ [msg] := by
  simp [sentTo, safeSend, delivery_of_open ho]

theorem safeSend_of_not_open {h : DeviceHub} {ws : Option WsId} {msg : Msg}
    (ho : ∀ w, ws = some w → ¬ h.IsOpen w) : h.safeSend ws msg = h := by
  simp [safeSend, delivery_of_not_open ho]

/-! ## 2. Lingering sockets and inert steps

`Inert` names the four things a message of such a viewer must leave alone, and `ViewerActs` when it
does not.  A `ping` at the time already stored changes nothing, which is why it is excepted. -/

/-- An attached viewer socket whose sid is not the stored claim: rejected, evicted, or left
behind by its device. -/
def Lingering (h : DeviceHub) (ws : WsId) : Prop :=
  ws ∈ h.socks ∧ ∃ sid, h.metaOf ws = some (.viewer sid) ∧ h.storage.viewerSid ≠ some sid

/-- From `h` to `h'` nothing was sent to a device, and no claim, no activity stamp and no ICE
servers were written.  Everything else may change; what is sent to viewers, for one, is not looked
at. -/
structure Inert (h h' : DeviceHub) : Prop where
  device : ∀ ws stale, h.metaOf ws = some (.device stale) → h'.sentTo ws = h.sentTo ws
  viewerSid : h'.storage.viewerSid = h.storage.viewerSid
  viewerLastActivity : h'.storage.viewerLastActivity = h.storage.viewerLastActivity
  iceServers : h'.storage.iceServers = h.storage.iceServers
  deviceLastActivity : h'.storage.deviceLastActivity = h.storage.deviceLastActivity

theorem Inert.refl (h : DeviceHub) : Inert h h := ⟨fun _ _ _ => rfl, rfl, rfl, rfl, rfl⟩

/-- The type of a text message, when it is JSON. -/
def textType (message : String) : Option SignalType := (Json.parse message).map signalType

theorem textType_of_parse {message : String} {msg : Json} (hparse : Json.parse message = some msg) :
    textType message = some (signalType msg) := by
  rw [textType, hparse, Option.map_some]

/-- The messages of a viewer socket that act: an `offer` or an `ice` while a device socket is
open, and a `ping` at a time other than the one already stored.  The sender is not mentioned: the
branch that handles the message does not look at it. -/
def ViewerActs (h : DeviceHub) (message : String) (now : Millis) : Prop :=
  match textType message with
  | some .offer | some .ice => ∃ device, h.deviceSocket = some device ∧ h.IsOpen device
  | some .ping => h.storage.viewerLastActivity ≠ some now
  | some .answer | some .other | none => False

/-- Sending to the device socket is inert exactly when no device socket is open. -/
theorem inert_safeSend_device {h : DeviceHub} {msg : Msg} :
    Inert h (h.safeSend h.deviceSocket msg) ↔
      ¬ ∃ device, h.deviceSocket = some device ∧ h.IsOpen device := by
  constructor
  · rintro hin ⟨device, hd, ho⟩
    have hsame := hin.device device false (deviceSocket_spec hd).2
    rw [hd, sentTo_safeSend_of_open ho] at hsame
    exact absurd hsame (by simp)
  · intro hno
    have ho : ∀ w, h.deviceSocket = some w → ¬ h.IsOpen w := fun w hw ho => hno ⟨w, hw, ho⟩
    rw [safeSend_of_not_open ho]
    exact .refl h

theorem onViewerMessage_inert_iff {h : DeviceHub} {message : String} {msg : Json} {now : Millis}
    (hparse : Json.parse message = some msg) :
    Inert h (h.onViewerMessage msg now) ↔ ¬ h.ViewerActs message now := by
  unfold ViewerActs
  rw [textType_of_parse hparse]
  unfold onViewerMessage
  cases signalType msg with
  | offer => exact inert_safeSend_device
  | ice => exact inert_safeSend_device
  | ping =>
    constructor
    · intro hin hne
      exact hne hin.viewerLastActivity.symm
    · intro heq
      exact ⟨fun _ _ _ => rfl, rfl, (not_not.mp heq).symm, rfl, rfl⟩
  | answer => exact ⟨fun _ => id, fun _ => .refl h⟩
  | other => exact ⟨fun _ => id, fun _ => .refl h⟩

/-- The value `null` has no type, so it does not act, and neither does the error it causes. -/
theorem not_viewerActs_null {h : DeviceHub} {message : String} {now : Millis}
    (hparse : Json.parse message = some .null) : ¬ h.ViewerActs message now := by
  have hnull : signalType .null = .other := by decide +kernel
  unfold ViewerActs
  rw [textType_of_parse hparse, hnull]
  exact id

/-- **Exactly when a lingering viewer's text message is inert**: when it does not act.  The socket's
sid and the stored claim play no part, because the branch of `webSocketMessage` that it takes reads
neither; so the condition has to name the message and the device. -/
theorem lingering_inert_iff {env : Env} {h : DeviceHub} {ws : WsId} (message : String)
    (now : Millis) (hl : h.Lingering ws) :
    ∃ h', step env h (.message ws (.text message) now) = some h' ∧
      (Inert h h' ↔ ¬ h.ViewerActs message now) := by
  obtain ⟨hws, sid, hmeta, -⟩ := hl
  simp only [step, if_pos hws, webSocketMessage, hmeta]
  cases hparse : Json.parse message with
  | none =>
    refine ⟨h, rfl, fun _ hact => ?_, fun _ => .refl h⟩
    rw [ViewerActs, textType, hparse] at hact
    exact hact
  | some msg =>
    cases msg with
    | null => exact ⟨h, rfl, fun _ => not_viewerActs_null hparse, fun _ => .refl h⟩
    | _ => exact ⟨_, rfl, onViewerMessage_inert_iff hparse⟩

/-! ## 3. A viewer that was turned away drives the device

The viewer on socket 2 is told "busy: another viewer is already watching", and offers before its
close arrives. -/

/-- A device finishes connecting, viewer 7 claims the slot, viewer 8 is rejected as busy. -/
def busySchedule : List Event :=
  firstConnect ++ [.viewerConnect 0 7 10, .viewerConnect 0 8 20]

/-- `{"type":"offer","sdp":"v=0"}`. -/
def offerText : String := "\x7b\"type\":\"offer\",\"sdp\":\"v=0\"\x7d"

/-- **The rejected viewer's offer reaches the device**, which holds another viewer's session. -/
theorem busy_viewer_offer_forwarded :
    ∃ h h' : DeviceHub, (machine stunEnv).Run busySchedule h ∧ h.Lingering 2 ∧
      h.storage.viewerSid = some 7 ∧
      step stunEnv h (.message 2 (.text offerText) 30) = some h' ∧ ¬ Inert h h' := by
  have hex : (Machine.exec (step stunEnv) .init busySchedule).any (fun h =>
      decide (2 ∈ h.socks ∧ h.metaOf 2 = some (.viewer 8) ∧ h.storage.viewerSid = some 7 ∧
        h.metaOf 0 = some (.device false)) &&
      (step stunEnv h (.message 2 (.text offerText) 30)).any fun h' =>
        decide (h'.sentTo 0 ≠ h.sentTo 0)) = true := by decide +kernel
  obtain ⟨h, hrun, hp⟩ := Machine.exists_run_of_any hex
  simp only [Bool.and_eq_true, decide_eq_true_eq, Option.any_eq_true] at hp
  obtain ⟨⟨hws, hmeta, hsid, hdev⟩, h', hstep, hne⟩ := hp
  refine ⟨h, h', hrun, ⟨hws, 8, hmeta, ?_⟩, hsid, hstep, fun hin => hne (hin.device 0 false hdev)⟩
  rw [hsid]
  decide

/-- The same socket's `answer` is inert. -/
theorem lingering_inert_iff_busy :
    ∃ h h' : DeviceHub, (machine stunEnv).Run busySchedule h ∧
      step stunEnv h (.message 2 (.text "\x7b\"type\":\"answer\"\x7d") 30) = some h' ∧
      Inert h h' := by
  have hex : (Machine.exec (step stunEnv) .init busySchedule).any (fun h =>
      decide (2 ∈ h.socks ∧ h.metaOf 2 = some (.viewer 8) ∧ h.storage.viewerSid = some 7)) =
      true := by decide +kernel
  obtain ⟨h, hrun, hp⟩ := Machine.exists_run_of_any hex
  obtain ⟨hws, hmeta, hsid⟩ := of_decide_eq_true hp
  have hl : h.Lingering 2 := ⟨hws, 8, hmeta, by rw [hsid]; decide⟩
  obtain ⟨h', hstep, hiff⟩ :=
    @lingering_inert_iff stunEnv _ _ "\x7b\"type\":\"answer\"\x7d" 30 hl
  refine ⟨h, h', hrun, hstep, hiff.mpr ?_⟩
  have hanswer : textType "\x7b\"type\":\"answer\"\x7d" = some .answer := by decide +kernel
  unfold ViewerActs
  rw [hanswer]
  exact id

end DeviceHub

end Surveillance
