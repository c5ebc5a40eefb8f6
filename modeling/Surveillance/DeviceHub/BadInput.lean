/-
# Frames that say nothing

A device may send `answer`, `ice` and `ping`, a viewer `offer`, `ice` and `ping`; everything else
on a socket is to be ignored (`webSocketMessage` in `cloudflare/src/devicehub.ts`: "bad JSON
ignored, as in the Go hub", and "unknown types ignored; the protocol grows forward").  A frame
whose text is no JSON, or JSON of any other shape or type, indeed changes nothing, on every socket
and in every state: `step_of_not_sendable`.

What it does not do is come to an end every time.  The text `null` is JSON, so the `catch` around
the parse lets it through, and reading the `type` of null throws.  Every other JSON value has
properties to read, numbers and strings included, so `null` is the only such text; and on a socket
that the hub does not listen to, a stale device or one without an attachment, not even it is
parsed.  `ignored_iff` is exact.

That the frame changes nothing although its handler throws is not the same as being ignored.  What
the platform does with the exception is no part of the model, so the two are kept apart.
-/
import Surveillance.DeviceHub.Handlers

namespace Surveillance

namespace DeviceHub

/-! ## 1. What a role may send

What a role may send is read from the texts of the two switches. -/

/-- The types a socket's role may send. -/
def mayType : SocketMeta → List String
  | .device _ => ["answer", "ice", "ping"]
  | .viewer _ => ["offer", "ice", "ping"]

/-- The text is a JSON object whose `type` is one of them. -/
def Sendable (m : SocketMeta) (text : String) : Prop :=
  ∃ members, ∃ type ∈ mayType m, Json.parse text = some (.obj members) ∧
    (Json.obj members).field "type" = some (.str (Json.utf16 type))

/-- The socket has an attachment and is not a superseded device. -/
def Heard (h : DeviceHub) (ws : WsId) : Prop :=
  h.metaOf ws ≠ none ∧ h.metaOf ws ≠ some (.device true)

/-! ## 2. A type that is listed is the type of an object

A `type` that one of the switches recognises is a string field, so the text it stands in is an
object. -/

theorem field_of_isStr {msg : Json} {type : String} (hne : Json.utf16 type ≠ [])
    (h : (Json.orEmpty (msg.field "type")).isStr type = true) :
    msg.field "type" = some (.str (Json.utf16 type)) := by
  rcases hfield : msg.field "type" with _ | (_ | _ | _ | u | _ | _)
  case some.str =>
    rw [hfield] at h
    have hu : u = Json.utf16 type := by simpa [Json.orEmpty, Json.isStr] using h
    rw [hu]
  case none | some.null =>
    rw [hfield] at h
    have hnil : [] = Json.utf16 type := by simpa [Json.orEmpty, Json.isStr] using h
    exact absurd hnil.symm hne
  all_goals exact absurd h (by simp [hfield, Json.orEmpty, Json.isStr])

/-- Only objects have fields. -/
theorem object_of_field {msg value : Json} {key : String} (h : msg.field key = some value) :
    ∃ members, msg = .obj members := by
  cases msg with
  | obj members => exact ⟨members, rfl⟩
  | _ => exact absurd h (by simp [Json.field])

/-- What `signalType` recognises, by its text. -/
theorem field_of_signalType (msg : Json) :
    (signalType msg = .offer → msg.field "type" = some (.str (Json.utf16 "offer"))) ∧
    (signalType msg = .answer → msg.field "type" = some (.str (Json.utf16 "answer"))) ∧
    (signalType msg = .ice → msg.field "type" = some (.str (Json.utf16 "ice"))) ∧
    (signalType msg = .ping → msg.field "type" = some (.str (Json.utf16 "ping"))) := by
  unfold signalType
  dsimp only
  split_ifs with hoffer hanswer hice hping
  · simp [field_of_isStr (by decide) hoffer]
  · simp [field_of_isStr (by decide) hanswer]
  · simp [field_of_isStr (by decide) hice]
  · simp [field_of_isStr (by decide) hping]
  · simp

theorem sendable_of_field {m : SocketMeta} {text : String} {msg : Json} {type : String}
    (hparse : Json.parse text = some msg) (htype : type ∈ mayType m)
    (hfield : msg.field "type" = some (.str (Json.utf16 type))) : Sendable m text := by
  obtain ⟨members, rfl⟩ := object_of_field hfield
  exact ⟨members, type, htype, hparse, hfield⟩

/-! ## 3. The two switches

Both roles share the way into the switch: the frame is text, the socket is listened to, the text is
JSON. -/

theorem onDeviceMessage_ignores {h : DeviceHub} {text : String} {msg : Json} {now : Millis}
    (stale : Bool) (hparse : Json.parse text = some msg) (hno : ¬Sendable (.device stale) text) :
    h.onDeviceMessage msg now = h := by
  obtain ⟨-, hanswer, hice, hping⟩ := field_of_signalType msg
  unfold onDeviceMessage
  cases htype : signalType msg with
  | answer => exact absurd (sendable_of_field hparse (by simp [mayType]) (hanswer htype)) hno
  | ice => exact absurd (sendable_of_field hparse (by simp [mayType]) (hice htype)) hno
  | ping => exact absurd (sendable_of_field hparse (by simp [mayType]) (hping htype)) hno
  | offer => rfl
  | other => rfl

theorem onViewerMessage_ignores {h : DeviceHub} {text : String} {msg : Json} {now : Millis}
    (sid : Sid) (hparse : Json.parse text = some msg) (hno : ¬Sendable (.viewer sid) text) :
    h.onViewerMessage msg now = h := by
  obtain ⟨hoffer, -, hice, hping⟩ := field_of_signalType msg
  unfold onViewerMessage
  cases htype : signalType msg with
  | offer => exact absurd (sendable_of_field hparse (by simp [mayType]) (hoffer htype)) hno
  | ice => exact absurd (sendable_of_field hparse (by simp [mayType]) (hice htype)) hno
  | ping => exact absurd (sendable_of_field hparse (by simp [mayType]) (hping htype)) hno
  | answer => rfl
  | other => rfl

/-- **`webSocketMessage` by cases**: it throws on `null` from a socket it listens to, and otherwise
ends, with nothing changed unless the sender's role may send the text. -/
theorem webSocketMessage_cases (h : DeviceHub) (ws : WsId) (text : String) (now : Millis) :
    (h.Heard ws ∧ Json.parse text = some .null ∧
      h.webSocketMessage ws (.text text) now = .error .typeError) ∨
    (¬(h.Heard ws ∧ Json.parse text = some .null) ∧
      ∃ h', h.webSocketMessage ws (.text text) now = .ok h' ∧
        ((∀ m, h.metaOf ws = some m → ¬Sendable m text) → h' = h)) := by
  unfold webSocketMessage
  dsimp only
  rcases hmeta : h.metaOf ws with _ | ⟨_ | _⟩ | sid
  · exact Or.inr ⟨fun hc => hc.1.1 hmeta, h, rfl, fun _ => rfl⟩
  · have hheard : h.Heard ws := ⟨by simp [hmeta], by simp [hmeta]⟩
    rcases hparse : Json.parse text with _ | msg
    · exact Or.inr ⟨fun hc => absurd hc.2 (by simp), h, rfl, fun _ => rfl⟩
    · cases msg with
      | null => exact Or.inl ⟨hheard, rfl, rfl⟩
      | _ =>
        refine Or.inr ⟨fun hc => absurd hc.2 (by simp), _, rfl, fun hno => ?_⟩
        exact onDeviceMessage_ignores false hparse (hno _ rfl)
  · exact Or.inr ⟨fun hc => hc.1.2 hmeta, h, rfl, fun _ => rfl⟩
  · have hheard : h.Heard ws := ⟨by simp [hmeta], by simp [hmeta]⟩
    rcases hparse : Json.parse text with _ | msg
    · exact Or.inr ⟨fun hc => absurd hc.2 (by simp), h, rfl, fun _ => rfl⟩
    · cases msg with
      | null => exact Or.inl ⟨hheard, rfl, rfl⟩
      | _ =>
        refine Or.inr ⟨fun hc => absurd hc.2 (by simp), _, rfl, fun hno => ?_⟩
        exact onViewerMessage_ignores sid hparse (hno _ rfl)

/-! ## 4. When bad input is ignored

Two statements: what a frame leaves behind, and whether its handler ends. -/

/-- **A frame that the sender's role may not send changes nothing**, thrown or not. -/
theorem step_of_not_sendable {env : Env} {h : DeviceHub} {ws : WsId} {text : String} {now : Millis}
    (hws : ws ∈ h.socks) (hno : ∀ m, h.metaOf ws = some m → ¬Sendable m text) :
    step env h (.message ws (.text text) now) = some h := by
  simp only [step, if_pos hws]
  rcases webSocketMessage_cases h ws text now with ⟨-, -, herr⟩ | ⟨-, h', hok, hsame⟩
  · rw [herr]
  · rw [hok, hsame hno]

/-- **Exactly when a text frame is handled without an exception**, in any state at all: when it is
not the JSON value null on a socket the hub listens to.  A text that the sender's role may not send
then leaves the storage as it was, and sends nothing. -/
theorem ignored_iff (h : DeviceHub) (ws : WsId) (text : String) (now : Millis) :
    (∃ h', h.webSocketMessage ws (.text text) now = .ok h' ∧
      ((∀ m, h.metaOf ws = some m → ¬Sendable m text) →
        h'.storage = h.storage ∧ h'.sent = h.sent)) ↔
      ¬(h.Heard ws ∧ Json.parse text = some .null) := by
  rcases webSocketMessage_cases h ws text now with ⟨hheard, hnull, herr⟩ | ⟨hno, h', hok, hsame⟩
  · rw [herr]
    refine iff_of_false ?_ (not_not.mpr ⟨hheard, hnull⟩)
    rintro ⟨h', hok, -⟩
    exact absurd hok (by simp)
  · refine iff_of_true ⟨h', hok, fun hbad => ?_⟩ hno
    rw [hsame hbad]
    exact ⟨rfl, rfl⟩

/-- **Null throws**: from the device of a session, and from its viewer. -/
theorem null_throws :
    ∃ h, (machine stunEnv).Run (firstConnect ++ [.viewerConnect 0 7 10]) h ∧
      0 ∈ h.socks ∧ h.metaOf 0 = some (.device false) ∧
      h.webSocketMessage 0 (.text "null") 20 = .error .typeError ∧
      1 ∈ h.socks ∧ h.metaOf 1 = some (.viewer 7) ∧
      h.webSocketMessage 1 (.text "null") 20 = .error .typeError := by
  have hex : (Machine.exec (step stunEnv) .init (firstConnect ++ [.viewerConnect 0 7 10])).any
      (fun h => decide (0 ∈ h.socks ∧ h.metaOf 0 = some (.device false) ∧ 1 ∈ h.socks ∧
        h.metaOf 1 = some (.viewer 7))) = true := by decide +kernel
  obtain ⟨h, hrun, hp⟩ := Machine.exists_run_of_any hex
  obtain ⟨hdev, hmeta, hview, hmeta'⟩ := of_decide_eq_true hp
  have hnull : Json.parse "null" = some .null := by decide +kernel
  refine ⟨h, hrun, hdev, hmeta, ?_, hview, hmeta', ?_⟩
  · simp only [webSocketMessage, hmeta, hnull]
  · simp only [webSocketMessage, hmeta', hnull]

end DeviceHub

end Surveillance
