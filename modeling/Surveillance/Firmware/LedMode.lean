/-
# The LED and the mode

`led_update` of `esp32-firmware/main/webrtc_stream.c` is called by both tasks, each after a change
of its own to the flags it reads, and it reads them before it sets the pattern.  Three things go
wrong:

* `lan_stream_stop` has returned and `s_lan_active` is cleared with no call of `led_update`, on the
  ground that signaling is up and the LED solid; signaling may have gone down meanwhile;
* an event is handled, from the first flag to the LED, while the peer task stands between reading
  the flags and setting the pattern;
* the same with the tasks exchanged.

**These are all** (`shows_iff`): the LED shows the mode whenever no call of `led_update` is
outstanding exactly when every step keeps clear of them.  In particular it does at the top of the
loop (`led_shows_mode`).

A call of `led_update` makes the LED right at the moment it reads the flags, and a task that has
changed a flag is on its way to such a call.  So the property cannot be asked of every moment, and
is asked of those in which no call is outstanding (`State.Settled`).  Two calls can overlap, and
then the one that sets the pattern last may have read the flags first; `Keeps` is the condition on
the step that sets it.
-/
import Surveillance.Firmware.PeerTask

namespace Surveillance

namespace Firmware

namespace PeerTask

/-! ## 1. Outstanding updates

A task is painting from its change of a flag until it has set the pattern. -/

/-- A websocket event of the handler. -/
def Event.Ws (e : Event) : Prop := e = .connected ∨ e.Drops

/-- From a change of the flags to the end of `led_update`. -/
def Phase.painting : Phase → Bool
  | .stamping | .pingLed | .pingLedSet _ | .startLed | .startLedSet _ => true
  | _ => false

/-- The pattern that `led_set_pattern` is called with next. -/
def Phase.setting : Phase → Option LedPattern
  | .pingLedSet pattern | .startLedSet pattern => some pattern
  | _ => none

@[inherit_doc Phase.setting]
def WsPhase.setting : WsPhase → Option LedPattern
  | .ledSet pattern => some pattern
  | _ => none

/-- No `led_update` is outstanding. -/
structure State.Settled (s : State) : Prop where
  ws : s.ws = .idle
  peer : s.peer.painting = false

/-- The pattern set last, if there is one, is that of the mode, once no `led_update` is
outstanding. -/
def State.Shows (s : State) : Prop := s.Settled → ∀ pattern ∈ s.led, pattern = s.pattern

/-- A pattern that is set, or left as it is by the end of the LAN stream, is that of the mode, or
the other task sets one after it. -/
def Keeps (s : State) : Event → Prop
  | .peer _ =>
    (s.peer = .stopping → s.wsConnected = true ∨ s.ws ≠ .idle) ∧
      ∀ pattern ∈ s.peer.setting, pattern = s.pattern ∨ s.ws ≠ .idle
  | .ws => ∀ pattern ∈ s.ws.setting, pattern = s.pattern ∨ s.peer.painting = true
  | .tick _ | .connected | .disconnected | .closed | .error => True

/-! ## 2. What the peer task does to the flags and the LED

Of a step of the peer task it matters here which flag it changes, and whether it sets the LED. -/

/-- The LAN stream, the LED and the other task are left alone. -/
structure SameLed (s s' : State) : Prop where
  lanActive : s'.lanActive = s.lanActive
  lanUp : s'.lanUp = s.lanUp
  led : s'.led = s.led
  ws : s'.ws = s.ws

inductive PeerMove (s s' : State) : Prop
  /-- Nothing happens to the mode. -/
  | pass : SameLed s s' → s'.wsConnected = s.wsConnected → s.peer.painting = false →
      s.peer ≠ .stopping → (s'.peer = .stopping → s.lanUp = true) → PeerMove s s'
  | stop : s.peer = .stopping →
      s' = ({ s with lanUp := false, lanActive := false } : State).loop → PeerMove s s'
  | start : s.peer = .calling →
      s' = { s with peer := .startLed, lanUp := true, lanActive := true } → PeerMove s s'
  /-- Towards `led_set_pattern`. -/
  | turn : SameLed s s' → s'.peer.painting = true → s.peer ≠ .stopping → s.peer.setting = none →
      (s.peer = .startLed → ∃ pattern, s'.peer = .startLedSet pattern) → PeerMove s s'
  | set (pattern : LedPattern) : s.peer.setting = some pattern → s'.led = some pattern →
      s'.wsConnected = s.wsConnected → s'.lanActive = s.lanActive → s'.lanUp = s.lanUp →
      s'.ws = s.ws → s'.peer.painting = false → s'.peer ≠ .stopping → PeerMove s s'

theorem peerStep_move (s : State) (ok : Bool) : PeerMove s (s.peerStep ok) := by
  -- a step that only moves on, to a phase that is no `stopping`
  have pass : ∀ {phase : Phase} {s' : State}, s.peer = phase → phase.painting = false →
      phase ≠ .stopping → SameLed s s' → s'.wsConnected = s.wsConnected → s'.peer ≠ .stopping →
      PeerMove s s' := by
    rintro phase s' rfl hpainting hstop hsame hws hnext
    exact .pass hsame hws hpainting hstop fun heq => absurd heq hnext
  have turn : ∀ {phase : Phase} {s' : State}, s.peer = phase → phase ≠ .stopping →
      phase.setting = none → SameLed s s' → s'.peer.painting = true →
      (phase = .startLed → ∃ pattern, s'.peer = .startLedSet pattern) → PeerMove s s' := by
    rintro phase s' rfl hstop hset hsame hnext hstart
    exact .turn hsame hnext hstop hset hstart
  unfold State.peerStep
  cases hpeer : s.peer with
  | top => exact pass hpeer rfl nofun ⟨rfl, rfl, rfl, rfl⟩ rfl nofun
  | flagTest =>
    refine pass hpeer rfl nofun ⟨rfl, rfl, rfl, rfl⟩ rfl ?_
    dsimp only
    split <;> nofun
  | pingTest =>
    dsimp only
    split
    · exact pass hpeer rfl nofun ⟨rfl, rfl, rfl, rfl⟩ rfl nofun
    · exact pass hpeer rfl nofun ⟨rfl, rfl, rfl, rfl⟩ rfl nofun
  | sending =>
    refine pass hpeer rfl nofun ⟨rfl, rfl, rfl, rfl⟩ rfl ?_
    cases ok <;> nofun
  | asking =>
    refine pass hpeer rfl nofun ⟨rfl, rfl, rfl, rfl⟩ rfl ?_
    cases ok <;> nofun
  | clearing => exact turn hpeer nofun rfl ⟨rfl, rfl, rfl, rfl⟩ rfl nofun
  | stamping => exact turn hpeer nofun rfl ⟨rfl, rfl, rfl, rfl⟩ rfl nofun
  | pingLed => exact turn hpeer nofun rfl ⟨rfl, rfl, rfl, rfl⟩ rfl nofun
  | pingLedSet pattern => exact .set pattern (by rw [hpeer]; rfl) rfl rfl rfl rfl rfl rfl nofun
  | lanTest =>
    dsimp only
    split
    · next hup =>
      exact .pass ⟨rfl, rfl, rfl, rfl⟩ rfl (by rw [hpeer]; rfl) (by rw [hpeer]; nofun)
        fun _ => hup
    · exact pass hpeer rfl nofun ⟨rfl, rfl, rfl, rfl⟩ rfl nofun
  | stopping => exact .stop hpeer rfl
  | window =>
    dsimp only
    split
    · exact pass hpeer rfl nofun ⟨rfl, rfl, rfl, rfl⟩ rfl nofun
    · exact pass hpeer rfl nofun ⟨rfl, rfl, rfl, rfl⟩ rfl nofun
  | starting => exact pass hpeer rfl nofun ⟨rfl, rfl, rfl, rfl⟩ rfl nofun
  | calling =>
    cases ok with
    | true => exact .start hpeer rfl
    | false => exact pass hpeer rfl nofun ⟨rfl, rfl, rfl, rfl⟩ rfl nofun
  | startLed =>
    exact turn hpeer nofun rfl ⟨rfl, rfl, rfl, rfl⟩ rfl fun _ => ⟨s.pattern, rfl⟩
  | startLedSet pattern => exact .set pattern (by rw [hpeer]; rfl) rfl rfl rfl rfl rfl rfl nofun

/-! ## 3. The LAN stream and the LED -/

/-- The stream is up in both flags, and the LED is set when it comes up.  `lan_up` is the peer
task's own and `s_lan_active` is what `led_update` reads; no other task writes either. -/
structure LanInv (s : State) : Prop where
  active : s.lanActive = s.lanUp
  led : s.lanUp = true →
    s.led ≠ none ∨ s.peer = .startLed ∨ ∃ pattern, s.peer = .startLedSet pattern
  stopping : s.peer = .stopping → s.lanUp = true

theorem LanInv.peerStep {s : State} (h : LanInv s) (ok : Bool) : LanInv (s.peerStep ok) := by
  cases peerStep_move s ok with
  | pass hsame hws hpeer hstop hnext =>
    refine ⟨?_, fun hup => .inl ?_, fun heq => ?_⟩
    · rw [hsame.lanActive, hsame.lanUp, h.active]
    · rw [hsame.lanUp] at hup
      rw [hsame.led]
      rcases h.led hup with hled | hled | ⟨pattern, hled⟩
      · exact hled
      · rw [hled] at hpeer
        cases hpeer
      · rw [hled] at hpeer
        cases hpeer
    · rw [hsame.lanUp]
      exact hnext heq
  | stop hpeer heq =>
    rw [heq]
    exact ⟨rfl, nofun, nofun⟩
  | start hpeer heq =>
    rw [heq]
    exact ⟨rfl, fun _ => .inr (.inl rfl), nofun⟩
  | turn hsame hpeer hstop hset hstart =>
    refine ⟨?_, fun hup => ?_, fun heq => ?_⟩
    · rw [hsame.lanActive, hsame.lanUp, h.active]
    · rw [hsame.lanUp] at hup
      rw [hsame.led]
      rcases h.led hup with hled | hled | ⟨pattern, hled⟩
      · exact .inl hled
      · exact .inr (.inr (hstart hled))
      · rw [hled] at hset
        cases hset
    · rw [heq] at hpeer
      cases hpeer
  | set pattern hpeer hled hconn hactive hup hws hnext hstop =>
    refine ⟨?_, fun _ => .inl ?_, fun heq => absurd heq hstop⟩
    · rw [hactive, hup, h.active]
    · rw [hled]
      nofun

/-- What a step of the handler does to the LED: only the last one sets it. -/
theorem wsStep_led (s : State) :
    (s.wsStep.led = s.led ∧ s.ws.setting = none ∧ (s.ws ≠ .idle → s.wsStep.ws ≠ .idle)) ∨
      ∃ pattern, s.ws.setting = some pattern ∧
        s.wsStep = { s with ws := .idle, led := some pattern } := by
  unfold State.wsStep
  cases s.ws with
  | idle => exact .inl ⟨rfl, rfl, fun h => absurd rfl h⟩
  | flagTest =>
    refine .inl ⟨rfl, rfl, fun _ => ?_⟩
    dsimp only
    split <;> simp
  | clock => exact .inl ⟨rfl, rfl, by simp⟩
  | stamping ms => exact .inl ⟨rfl, rfl, by simp⟩
  | clearing => exact .inl ⟨rfl, rfl, by simp⟩
  | led => exact .inl ⟨rfl, rfl, by simp⟩
  | ledSet pattern => exact .inr ⟨pattern, rfl, rfl⟩

theorem LanInv.wsStep {s : State} (h : LanInv s) : LanInv s.wsStep := by
  have hsame := samePeer_wsStep s
  refine ⟨?_, ?_, ?_⟩
  · rw [hsame.lanActive, hsame.lanUp, h.active]
  · rw [hsame.lanUp, hsame.peer]
    intro hup
    rcases wsStep_led s with ⟨hled, -⟩ | ⟨pattern, -, heq⟩
    · rw [hled]
      exact h.led hup
    · rw [heq]
      exact .inl (Option.some_ne_none _)
  · rw [hsame.peer, hsame.lanUp]
    exact h.stopping

theorem LanInv.step {s s' : State} {e : Event} (h : LanInv s) (hs : step s e = some s') :
    LanInv s' := by
  rcases step_cases hs with ⟨ms, -, rfl⟩ | ⟨ok, -, rfl⟩ | ⟨-, rfl⟩ | ⟨-, rfl⟩ | ⟨-, -, rfl⟩
  · exact ⟨h.active, h.led, h.stopping⟩
  · exact h.peerStep ok
  · exact ⟨h.active, h.led, h.stopping⟩
  · exact ⟨h.active, h.led, h.stopping⟩
  · exact h.wsStep

theorem lanInv_of_reachable {s : State} (h : machine.Reachable s) : LanInv s := by
  refine h.induct ?_ fun s e s' _ => LanInv.step
  rintro s rfl
  exact ⟨rfl, nofun, nofun⟩

/-! ## 4. When the LED shows the mode

Apart from the end of the LAN stream, a step that does not end a painting leaves an update
outstanding, or changes nothing that the pattern depends on. -/

theorem pattern_up {s : State} (h : s.wsConnected = true) : s.pattern = .solid := by
  rw [State.pattern, if_pos h]

theorem pattern_down {s : State} (h : s.wsConnected = false) :
    s.pattern = if s.lanActive then .slowBlink else .fastFlash := by
  rw [State.pattern, if_neg (by simp [h])]

theorem pattern_congr {s s' : State} (hconn : s'.wsConnected = s.wsConnected)
    (hactive : s'.lanActive = s.lanActive) : s'.pattern = s.pattern := by
  rw [State.pattern, State.pattern, hconn, hactive]

/-- An outstanding update is yet to come. -/
theorem shows_of_not_settled {s : State} (h : ¬s.Settled) : s.Shows :=
  fun hsettled => absurd hsettled h

theorem shows_of_handling {s : State} (h : s.ws ≠ .idle) : s.Shows :=
  shows_of_not_settled fun hsettled => h hsettled.ws

/-- `lan_stream_stop` has returned. -/
theorem shows_stop_iff {s : State} (hlan : LanInv s) (h : s.Shows) (hpeer : s.peer = .stopping) :
    ({ s with lanUp := false, lanActive := false } : State).loop.Shows ↔
      s.wsConnected = true ∨ s.ws ≠ .idle := by
  have hactive : s.lanActive = true := hlan.active.trans (hlan.stopping hpeer)
  by_cases hws : s.ws = .idle
  · rw [or_iff_left (not_not_intro hws)]
    have hshown := h ⟨hws, by rw [hpeer]; rfl⟩
    rcases Bool.eq_false_or_eq_true s.wsConnected with hconn | hconn
    · refine iff_of_true (fun _ pattern hled => ?_) hconn
      rw [hshown pattern hled, pattern_up hconn]
      refine (pattern_up ?_).symm
      exact hconn
    · refine iff_of_false (fun hafter => ?_) (by simp [hconn])
      obtain ⟨pattern, hled⟩ : ∃ pattern, s.led = some pattern := by
        refine Option.ne_none_iff_exists'.mp ?_
        rcases hlan.led (hlan.stopping hpeer) with hled | hled | ⟨pattern, hled⟩
        · exact hled
        · rw [hpeer] at hled
          cases hled
        · rw [hpeer] at hled
          cases hled
      have hslow : pattern = .slowBlink := by
        rw [hshown pattern hled, pattern_down hconn, hactive]
        rfl
      have hfast : pattern = .fastFlash := by
        rw [hafter ⟨hws, rfl⟩ pattern hled]
        exact pattern_down hconn
      rw [hslow] at hfast
      cases hfast
  · exact iff_of_true (shows_of_handling hws) (.inr hws)

/-- The pattern is set, and nothing else happens. -/
theorem shows_set_iff {s s' : State} {pattern : LedPattern} (hled : s'.led = some pattern)
    (hpattern : s'.pattern = s.pattern) {q : Prop} (hq : ¬q ↔ s'.Settled) :
    s'.Shows ↔ pattern = s.pattern ∨ q := by
  by_cases h : q
  · exact iff_of_true (shows_of_not_settled fun hsettled => hq.mpr hsettled h) (.inr h)
  · rw [or_iff_left h, State.Shows, hled, hpattern]
    simp [hq.mp h]

/-- A step that is not one of the two. -/
theorem keeps_peer {s : State} (hstop : s.peer ≠ .stopping) (hset : s.peer.setting = none)
    (ok : Bool) : Keeps s (.peer ok) := by
  refine ⟨fun heq => absurd heq hstop, ?_⟩
  rw [hset]
  nofun

theorem setting_of_not_painting {s : State} (h : s.peer.painting = false) :
    s.peer.setting = none := by
  cases hpeer : s.peer <;> first | rfl | (rw [hpeer] at h; cases h)

theorem shows_peerStep_iff {s : State} (hlan : LanInv s) (h : s.Shows) (ok : Bool) :
    (s.peerStep ok).Shows ↔ Keeps s (.peer ok) := by
  cases peerStep_move s ok with
  | pass hsame hconn hpeer hstop hnext =>
    refine iff_of_true (fun hsettled => ?_) (keeps_peer hstop (setting_of_not_painting hpeer) ok)
    rw [hsame.led, pattern_congr hconn hsame.lanActive]
    exact h ⟨hsame.ws.symm.trans hsettled.ws, hpeer⟩
  | stop hpeer heq =>
    rw [heq, shows_stop_iff hlan h hpeer, Keeps, hpeer]
    simp [Phase.setting]
  | start hpeer heq =>
    rw [heq]
    refine iff_of_true (shows_of_not_settled fun hsettled => ?_)
      (keeps_peer (by rw [hpeer]; nofun) (by rw [hpeer]; rfl) ok)
    have hpainting : true = false := hsettled.peer
    cases hpainting
  | turn hsame hpeer hstop hset hstart =>
    refine iff_of_true (shows_of_not_settled fun hsettled => ?_) (keeps_peer hstop hset ok)
    exact absurd (hpeer.symm.trans hsettled.peer) Bool.true_eq_false.mp
  | set pattern hset hled hconn hactive hup hws hnext hstop =>
    have hstopping : s.peer ≠ .stopping := by
      intro heq
      rw [heq] at hset
      cases hset
    have hsettled : ¬s.ws ≠ .idle ↔ (s.peerStep ok).Settled := by
      rw [not_not, ← hws]
      exact ⟨fun hidle => ⟨hidle, hnext⟩, State.Settled.ws⟩
    rw [shows_set_iff hled (pattern_congr hconn hactive) hsettled, Keeps, hset]
    simp [hstopping]

/-- A step of the handler.  Up to the last one `led_update` is still to come. -/
theorem shows_wsStep_iff {s : State} (hws : s.ws ≠ .idle) : s.wsStep.Shows ↔ Keeps s .ws := by
  rcases wsStep_led s with ⟨-, hset, hnext⟩ | ⟨pattern, hset, heq⟩
  · refine iff_of_true (shows_of_handling (hnext hws)) ?_
    rw [Keeps, hset]
    simp
  · have hshows : State.Shows { s with ws := .idle, led := some pattern } ↔
        pattern = s.pattern ∨ s.peer.painting = true := by
      refine shows_set_iff rfl rfl ?_
      rw [Bool.not_eq_true]
      exact ⟨fun hpeer => ⟨rfl, hpeer⟩, State.Settled.peer⟩
    rw [heq, hshows, Keeps, hset]
    simp

theorem shows_step_iff {s s' : State} {e : Event} (hlan : LanInv s) (h : s.Shows)
    (hs : step s e = some s') : s'.Shows ↔ Keeps s e := by
  rcases step_cases hs with ⟨ms, rfl, rfl⟩ | ⟨ok, rfl, rfl⟩ | ⟨rfl, rfl⟩ | ⟨hdrops, rfl⟩ |
    ⟨rfl, hws, rfl⟩
  · exact iff_of_true (fun hsettled => h ⟨hsettled.ws, hsettled.peer⟩) trivial
  · exact shows_peerStep_iff hlan h ok
  · exact iff_of_true (shows_of_handling (by simp)) trivial
  · have hkeeps : Keeps s e := by
      rcases hdrops with rfl | rfl | rfl <;> trivial
    exact iff_of_true (shows_of_handling (by simp)) hkeeps
  · exact shows_wsStep_iff hws

/-- **The LED shows the mode whenever no update is outstanding exactly when** no step leaves a wrong
pattern behind, in every run.  `Keeps` looks at the state before a step, and asks something of two
kinds of steps only: those that set a pattern, and the one that ends the LAN stream without doing
so. -/
theorem shows_iff {p : List (Machine.Transition State Event)} {s : State} (hp : machine.Path p s) :
    (∀ t ∈ p, t.after.Shows) ↔ ∀ t ∈ p, Keeps t.before t.event := by
  refine Machine.Path.forall_after_iff (M := machine) ?_ ?_ hp
  · rintro s rfl
    nofun
  · intro s e s' hreachable hshows hs
    exact shows_step_iff (lanInv_of_reachable hreachable) hshows hs

/-! ## 5. At the top of the loop

Before the first websocket event no pattern has been set by this file at all. -/

/-- A pattern, once set, stays until the next one. -/
theorem led_step {s s' : State} {e : Event} (hs : step s e = some s')
    (h : e.Ws ∨ s.ws ≠ .idle ∨ s.led ≠ none) : s'.ws ≠ .idle ∨ s'.led ≠ none := by
  rcases step_cases hs with ⟨ms, rfl, rfl⟩ | ⟨ok, rfl, rfl⟩ | ⟨-, rfl⟩ | ⟨-, rfl⟩ |
    ⟨rfl, hws, rfl⟩
  · exact h.resolve_left (by simp [Event.Ws, Event.Drops])
  · have hbefore := h.resolve_left (by simp [Event.Ws, Event.Drops])
    cases peerStep_move s ok with
    | pass hsame hconn hpeer hstop hnext =>
      rw [hsame.ws, hsame.led]
      exact hbefore
    | stop hpeer heq =>
      rw [heq]
      exact hbefore
    | start hpeer heq =>
      rw [heq]
      exact hbefore
    | turn hsame hpeer hstop hset hstart =>
      rw [hsame.ws, hsame.led]
      exact hbefore
    | set pattern hset hled =>
      rw [hled]
      exact .inr (Option.some_ne_none _)
  · exact .inl (by simp)
  · exact .inl (by simp)
  · rcases wsStep_led s with ⟨-, -, hnext⟩ | ⟨pattern, -, heq⟩
    · exact .inl (hnext hws)
    · rw [heq]
      exact .inr (Option.some_ne_none _)

/-- The handler of a websocket event sets a pattern. -/
theorem led_of_event {p : List (Machine.Transition State Event)} {s : State}
    (hp : machine.Path p s) (hevent : ∃ t ∈ p, t.event.Ws) : s.ws ≠ .idle ∨ s.led ≠ none := by
  induction hp with
  | init => simp at hevent
  | @tail p s s' e hp hs ih =>
    obtain ⟨t, ht, hws⟩ := hevent
    refine led_step hs ?_
    rcases List.mem_append.mp ht with ht | ht
    · exact .inr (ih ⟨t, ht, hws⟩)
    · rw [List.mem_singleton.mp ht] at hws
      exact .inl hws

/-- **The LED shows the mode** at the top of the loop, when no handler runs, once there has been a
websocket event: in every run in which no step leaves a wrong pattern behind.  These are the states
in which nothing is outstanding, and they come round with every iteration, so a pattern that is
right there is right for as long as nothing changes. -/
theorem led_shows_mode {p : List (Machine.Transition State Event)} {s : State}
    (hp : machine.Path p s) (hkeeps : ∀ t ∈ p, Keeps t.before t.event)
    (hevent : ∃ t ∈ p, t.event.Ws) (hws : s.ws = .idle) (htop : s.peer = .top) :
    s.led = some s.pattern := by
  obtain ⟨pattern, hled⟩ : ∃ pattern, s.led = some pattern :=
    Option.ne_none_iff_exists'.mp ((led_of_event hp hevent).resolve_left (not_not_intro hws))
  have hshows : s.Shows := by
    cases hp with
    | init h0 => simp at hevent
    | tail hp hs =>
      exact (shows_iff (hp.tail hs)).mpr hkeeps _
        (List.mem_append_right _ (List.mem_singleton_self _))
  rw [hled, hshows ⟨hws, by rw [htop]; rfl⟩ pattern hled]

instance (s : State) : (e : Event) → Decidable (Keeps s e)
  | .peer _ => inferInstanceAs (Decidable (_ ∧ _))
  | .ws => inferInstanceAs (Decidable (∀ pattern ∈ s.ws.setting, _))
  | .tick _ | .connected | .disconnected | .closed | .error => inferInstanceAs (Decidable True)

/-- Signaling comes up while the LAN stream is served; `lan_stream_stop` is called. -/
def backOnline : List Event :=
  .tick 60000 :: List.replicate 7 (.peer true) ++ [.connected, .ws, .ws] ++
    List.replicate 5 (.peer true)

theorem led_shows_mode_backOnline :
    ∃ p s, machine.Path p s ∧ p.map Machine.Transition.event = backOnline ++ [.peer true] ∧
      s.led = some .solid ∧ s.led = some s.pattern := by
  have hex : (Machine.exec step {} (backOnline ++ [.peer true])).any (fun s =>
      decide (s.ws = .idle) && decide (s.peer = .top) && decide (s.led = some .solid)) = true := by
    decide +kernel
  have hkeeps : ((Machine.trace step {} (backOnline ++ [.peer true])).all fun t =>
      decide (Keeps t.before t.event)) = true := by
    decide +kernel
  have hevents : (Machine.trace step {} (backOnline ++ [.peer true])).map
      Machine.Transition.event = backOnline ++ [.peer true] := by
    decide +kernel
  obtain ⟨s, hpath, hs⟩ := Machine.Path.exists_of_any (M := machine) (fun _ _ _ => id) rfl hex
  simp only [Bool.and_eq_true, decide_eq_true_eq] at hs
  obtain ⟨⟨hws, htop⟩, hled⟩ := hs
  refine ⟨_, s, hpath, hevents, hled, led_shows_mode hpath (fun t ht => ?_) ?_ hws htop⟩
  · exact of_decide_eq_true (List.all_eq_true.mp hkeeps t ht)
  · have hmem : Event.connected ∈ backOnline ++ [.peer true] := by decide
    rw [← hevents] at hmem
    obtain ⟨t, ht, heq⟩ := List.mem_map.mp hmem
    exact ⟨t, ht, .inl heq⟩

/-- Signaling goes down again before `lan_stream_stop` returns. -/
def gone : List Event :=
  backOnline ++ [.disconnected, .ws, .ws, .ws, .ws, .ws, .ws, .peer true]

/-- Signaling comes up while the peer task is about to set the pattern of the LAN stream. -/
def overtaken : List Event :=
  .tick 60000 :: List.replicate 6 (.peer true) ++ [.connected, .ws, .ws, .peer true]

/-- The LAN stream comes up while a failed retry is about to set the pattern of an error. -/
def overtaking : List Event :=
  .tick 60000 :: List.replicate 4 (.peer true) ++
    [.error, .ws, .ws, .ws, .peer true, .peer true, .peer true, .ws]

/-- At the top of the loop, with no handler running, the LED shows something else. -/
def State.Wrong (s : State) : Prop :=
  s.ws = .idle ∧ s.peer = .top ∧ ∃ pattern ∈ s.led, pattern ≠ s.pattern

/-- **Three runs to a wrong LED.** -/
theorem wrong_mode : (∃ s, machine.Run gone s ∧ s.Wrong) ∧
    (∃ s, machine.Run overtaken s ∧ s.Wrong) ∧ ∃ s, machine.Run overtaking s ∧ s.Wrong := by
  have hwrong : ∀ es : List Event, (Machine.exec step {} es).any (fun s =>
      decide (s.ws = .idle) && decide (s.peer = .top) &&
        s.led.any fun pattern => decide (pattern ≠ s.pattern)) = true →
      ∃ s, machine.Run es s ∧ s.Wrong := by
    intro es hes
    obtain ⟨s, hrun, hs⟩ := Machine.exists_run_of_any hes
    simp only [Bool.and_eq_true, decide_eq_true_eq, Option.any_eq_true] at hs
    exact ⟨s, hrun, hs.1.1, hs.1.2, hs.2⟩
  exact ⟨hwrong gone (by decide +kernel), hwrong overtaken (by decide +kernel),
    hwrong overtaking (by decide +kernel)⟩

end PeerTask

end Firmware

end Surveillance
