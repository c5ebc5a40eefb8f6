/-
# Whether TURN is on

`TURNEnabled` asks for a secret and a public address, and its comment says what a partial setting
means: "peers just get no ICE servers" (`backend/internal/config/config.go`).  `main` builds the
URL lists by that test; the hub mints credentials for a session whenever there is a secret
(`cmd/server/main.go`, `internal/signaling/hub.go`).  So with a secret and no address the two
disagree, and every session gets credentials for no server.

The other partial setting is harmless: without a secret nothing is minted, and the address alone is
not enough for `TURNEnabled`.  And a server for which both are set but whose TURN part does not come
up is not served at all.

`turn_as_configured_iff` is exact, over every environment and every run of the hub.  What carries
it is that a session has one pair of credentials (`CredsInv`), minted once, announced to the viewer
and attached to each of its offers: a ghost function gives the pair of each handler, and every
message that announces servers is written by a handler with its own pair.

The environment is any function from names to values, as `os.LookupEnv` sees it; a variable that is
set to the empty string is set.
-/
import Mathlib.Algebra.Group.Int.Defs
import Surveillance.Backend.SignalJson

namespace Surveillance

namespace Backend

/-! ## 1. `config.Load` and `main`

A variable that is not set has its default; the numbers are those of `strconv.Atoi`, and the
lifetime is a product that may wrap. -/

structure Config where
  listenAddr : String
  uiListenAddr : String
  turnListenAddr : String
  turnPublicAddr : String
  turnSecret : String
  turnCredHours : Int

/-- `os.LookupEnv` with a default; a variable set to the empty string is set. -/
def getEnv (vars : String → Option String) (key defaultVal : String) : String :=
  (vars key).getD defaultVal

/-- `strconv.Atoi`, into 64 bits. -/
def atoi (s : String) : Option Int :=
  let (neg, digits) := match s.toList with
    | '-' :: ds => (true, ds)
    | '+' :: ds => (false, ds)
    | ds => (false, ds)
  let value : Int := if neg then -(Json.digitsValue digits : Int) else Json.digitsValue digits
  if digits = [] ∨ digits.all Json.isDigit = false then none
  else if value < -2 ^ 63 ∨ 2 ^ 63 ≤ value then none
  else some value

def getEnvInt (vars : String → Option String) (key : String) (defaultVal : Int) : Int :=
  ((vars key).bind atoi).getD defaultVal

namespace Config

/-- `config.Load`. -/
def load (vars : String → Option String) : Config where
  listenAddr := getEnv vars "LISTEN_ADDR" ":8080"
  uiListenAddr := getEnv vars "UI_LISTEN_ADDR" ""
  turnListenAddr := getEnv vars "TURN_LISTEN_ADDR" ":3478"
  turnPublicAddr := getEnv vars "TURN_PUBLIC_ADDR" ""
  turnSecret := getEnv vars "TURN_SECRET" ""
  turnCredHours := getEnvInt vars "TURN_CRED_HOURS" 2

def turnEnabled (c : Config) : Bool := c.turnSecret ≠ "" && c.turnPublicAddr ≠ ""

/-- `TURNCredTTL`: a product of 64 bits. -/
def turnCredTTL (c : Config) : Int := (c.turnCredHours * 3600000000000).bmod (2 ^ 64)

end Config

def stunURLs (cfg : Config) : List String :=
  if cfg.turnEnabled then ["stun:" ++ cfg.turnPublicAddr] else []

def turnURLs (cfg : Config) : List String :=
  if cfg.turnEnabled then
    ["turn:" ++ cfg.turnPublicAddr ++ "?transport=udp",
      "turn:" ++ cfg.turnPublicAddr ++ "?transport=tcp"]
  else []

/-- The hub that `main` serves: none when TURN is enabled and `StartTURN` fails. -/
def mainHub (cfg : Config) (startTURN : Bool) (deviceID : String)
    (hmac : String → String → String) : Option Env :=
  if cfg.turnEnabled && !startTURN then none
  else some ⟨deviceID, stunURLs cfg, turnURLs cfg, cfg.turnSecret, cfg.turnCredTTL, hmac⟩

/-! ## 2. What the messages say

A `turn` may be absent, or have no URLs; the receiver sees the difference. -/

/-- The two messages that announce ICE servers. -/
def SignalMsg.announces (msg : SignalMsg) : Bool := msg.type = "ice_servers" || msg.type = "offer"

/-- The `turn` that the receiver finds. -/
def turnOf (m : Sent) : Option Json := m.msg.json.field "turn"

/-- No `turn` where TURN is off; where it is on, one with URLs, and the same one in all messages of
a session.  A message announces servers if it is an `ice_servers` or an `offer`. -/
structure TurnAsConfigured (enabled : Bool) (s : Hub) : Prop where
  off : enabled = false → ∀ m ∈ s.sent, m.msg.announces = true → turnOf m = none
  on : enabled = true → ∀ m ∈ s.sent, m.msg.announces = true →
    ∃ turn urls, turnOf m = some turn ∧ turn.field "urls" = some (.arr urls) ∧ urls ≠ [] ∧
      ∀ m' ∈ s.sent, m'.msg.announces = true → m'.src = m.src → turnOf m' = some turn

/-! ## 3. One pair of credentials for a session

One action of a handler says at most one thing, and what it says about servers is its own pair. -/

namespace Phase

/-- A viewer's handler that is past its `ice_servers`. -/
def settled : Phase → Bool
  | viewerReading _ | viewerForwarding .. | viewerWriting .. | viewerReleasing | viewerReleased
  | viewerLeaving _ | done => true
  | _ => false

/-- The handler has these credentials, and announces no others. -/
def Uses (turn : Option TurnCreds) : Phase → Prop
  | deviceForwarding msg | deviceWriting _ msg => msg.announces = false
  | viewerReading creds => creds = turn
  | viewerForwarding creds msg | viewerWriting creds _ msg =>
    creds = turn ∧ (msg.announces = true → msg.turn = turn)
  | _ => True

end Phase

variable {env : Env} {s s' : Hub} {session : ConnId → Option TurnCreds}

/-- `session` gives every handler its credentials, and every announcement is of its session's.  It
is chosen as the run goes on: a handler that has not minted yet may still be given any pair. -/
structure CredsInv (env : Env) (session : ConnId → Option TurnCreds) (s : Hub) : Prop where
  minted : ∀ c, ∃ now, session c = sessionCreds env now
  uses : ∀ c, (s.phase c).Uses (session c)
  sent : ∀ m ∈ s.sent, m.msg.announces = true →
    m.msg.turn = session m.src ∧ (s.phase m.src).settled = true

/-- `s'` is `s` up to what the handler of `c` says on its way to `p'`. -/
structure Told (turn : Option TurnCreds) (c : ConnId) (p' : Phase) (s s' : Hub) : Prop where
  phase : s'.phase = s.phase
  sent : ∃ out, s'.sent = s.sent ++ out ∧ ∀ m ∈ out, m.msg.announces = true →
    m.src = c ∧ m.msg.turn = turn ∧ p'.settled = true

namespace Told

variable {turn : Option TurnCreds} {c : ConnId} {p' : Phase}

theorem refl (s : Hub) : Told turn c p' s s := ⟨rfl, [], (List.append_nil _).symm, by simp⟩

theorem close (h : Told turn c p' s s') (x : ConnId) : Told turn c p' s (s'.close x) :=
  ⟨h.phase, h.sent⟩

theorem called (h : Told turn c p' s s') (d : Device) (call : Call) :
    Told turn c p' s (s'.called d call) :=
  ⟨h.phase, h.sent⟩

theorem write (s : Hub) (dst : ConnId) {msg : SignalMsg} (o : Outcome)
    (hmsg : msg.announces = true → msg.turn = turn ∧ p'.settled = true) :
    Told turn c p' s (s.write c dst msg o) := by
  unfold Hub.write
  split
  · refine ⟨rfl, _, rfl, ?_⟩
    intro m hm hann
    rw [List.mem_singleton.mp hm] at hann ⊢
    exact ⟨rfl, hmsg hann⟩
  · exact refl s

theorem writeJSON (s : Hub) (dst : ConnId) {msg : SignalMsg} (o : Outcome)
    (hmsg : msg.announces = true → msg.turn = turn ∧ p'.settled = true) :
    Told turn c p' s (s.writeJSON c dst msg o) := by
  unfold Hub.writeJSON
  split
  · exact write s dst o hmsg
  · exact (refl s).close dst

theorem evict (s : Hub) (viewer : Option ConnId) (o : Outcome) :
    Told turn c p' s (s.evict c viewer o) := by
  unfold Hub.evict
  split
  · exact refl s
  · exact (writeJSON s _ o fun hann => absurd hann (by decide)).close _

end Told

namespace CredsInv

/-- **A handler moves on**, having said what it may. -/
theorem moved (hi : CredsInv env session s) {c : ConnId} {p p' : Phase} (hp : s.phase c = p)
    (hset : (!p.settled || p'.settled) = true) (huses : p'.Uses (session c))
    (ht : Told (session c) c p' s s') : CredsInv env session (s'.goto c p') := by
  have hphase : (s'.goto c p').phase = Function.update s.phase c p' := by
    rw [Hub.goto, ← ht.phase]
  have hstays : ∀ x, (s.phase x).settled = true → ((s'.goto c p').phase x).settled = true := by
    intro x hx
    rw [hphase, Function.update_apply]
    split
    · rename_i hxc
      rw [hxc, hp] at hx
      rwa [hx, Bool.not_true, Bool.false_or] at hset
    · exact hx
  refine ⟨hi.minted, ?_, ?_⟩
  · intro x
    rw [hphase, Function.update_apply]
    split
    · rename_i hxc
      rw [hxc]
      exact huses
    · exact hi.uses x
  · intro m hm hann
    obtain ⟨out, hsent, hout⟩ := ht.sent
    have hm' : m ∈ s.sent ++ out := hsent ▸ hm
    rcases List.mem_append.mp hm' with hold | hnew
    · exact ⟨(hi.sent m hold hann).1, hstays _ (hi.sent m hold hann).2⟩
    · obtain ⟨hsrc, hturn, hsettled⟩ := hout m hnew hann
      rw [hsrc, hphase, Function.update_self]
      exact ⟨hturn, hsettled⟩

/-- A handler that has only claimed is given its credentials. -/
theorem mint (hi : CredsInv env session s) {c : ConnId} (hp : s.phase c = .viewerClaimed)
    (now : Nat) : CredsInv env (Function.update session c (sessionCreds env now)) s := by
  refine ⟨?_, ?_, ?_⟩
  · intro x
    rw [Function.update_apply]
    split
    · exact ⟨now, rfl⟩
    · exact hi.minted x
  · intro x
    rw [Function.update_apply]
    split
    · rename_i hxc
      rw [hxc, hp]
      trivial
    · exact hi.uses x
  · intro m hm hann
    have hne : m.src ≠ c := by
      intro hsrc
      have hsettled := (hi.sent m hm hann).2
      rw [hsrc, hp] at hsettled
      exact absurd hsettled (by decide)
    rw [Function.update_of_ne hne]
    exact hi.sent m hm hann

/-- A new connection has said nothing. -/
theorem accept (hi : CredsInv env session s) (hfree : s.phase s.nextConn = .free) {p : Phase}
    (huses : p.Uses (session s.nextConn)) : CredsInv env session (s.accept p) := by
  have hmoved : CredsInv env session (s.goto s.nextConn p) :=
    hi.moved hfree rfl huses (Told.refl s)
  exact ⟨hmoved.minted, hmoved.uses, hmoved.sent⟩

end CredsInv

theorem deviceForward_announces {msg out : SignalMsg} (h : deviceForward msg = some out) :
    out.announces = false := by
  unfold deviceForward at h
  split at h
  · obtain rfl := Option.some.inj h
    simp [SignalMsg.announces]
  · split at h
    · obtain rfl := Option.some.inj h
      simp [SignalMsg.announces]
    · exact absurd h (by simp)

theorem viewerForward_turn {creds : Option TurnCreds} {msg out : SignalMsg}
    (h : viewerForward env creds msg = some out) (hann : out.announces = true) :
    out.turn = creds := by
  unfold viewerForward at h
  split at h
  · rw [← Option.some.inj h]
  · split at h
    · rw [← Option.some.inj h] at hann
      exact absurd hann (by simp [SignalMsg.announces])
    · exact absurd h (by simp)

/-- A move that announces nothing of its own keeps to the credentials of every handler. -/
theorem CredsInv.kept (hi : CredsInv env session s) {c : ConnId} {p p' : Phase}
    (hp : s.phase c = p) (hset : (!p.settled || p'.settled) = true) (huses : p'.Uses (session c))
    (ht : Told (session c) c p' s s') : ∃ session, CredsInv env session (s'.goto c p') :=
  ⟨session, hi.moved hp hset huses ht⟩

/-- **One action of one handler**, by the place where it stands. -/
theorem CredsInv.move (hi : CredsInv env session s) {c : ConnId} {o : Outcome}
    (h : Move env s c o s') : ∃ session, CredsInv env session s' := by
  have huses : ∀ {p : Phase}, s.phase c = p → p.Uses (session c) := fun hp => hp ▸ hi.uses c
  cases h with
  | ignores => exact ⟨session, hi⟩
  | attach hp | detach hp | claim hp | release hp =>
    exact hi.kept hp rfl trivial ((Told.refl s).called _ _)
  | deviceFails hp | noViewer hp | online hp | viewerFails hp | noDevice hp | leaving hp =>
    exact hi.kept hp rfl trivial (.refl s)
  | refuse hp => rcases hp with hp | hp <;> exact hi.kept hp rfl trivial (.refl s)
  | deviceReads hp hout => exact hi.kept hp rfl (deviceForward_announces hout) (.refl s)
  | toViewer hp =>
    have hkept := huses hp
    exact hi.kept hp rfl hkept (.refl s)
  | @deviceWrites viewer msg hp =>
    have hmsg : msg.announces = false := huses hp
    exact hi.kept hp rfl trivial
      (.write s viewer o fun hann => absurd (hmsg.symm.trans hann) (by simp))
  | @evict viewer hp => exact hi.kept hp rfl trivial ((Told.evict s viewer o).close c)
  | @reject reason hp =>
    have hmsg : SignalMsg.announces { type := "error", reason := reason } = false := by
      simp [SignalMsg.announces]
    exact hi.kept hp rfl trivial
      ((Told.writeJSON s c o fun hann => absurd (hmsg.symm.trans hann) (by simp)).close c)
  | announce hp hp' =>
    -- The credentials of the session are minted here.
    refine (hi.mint hp o.now).kept hp rfl ?_ (.writeJSON s c o fun _ => ?_)
    · rw [Function.update_self]
      rcases hp' with rfl | rfl
      · rfl
      · trivial
    · rw [Function.update_self]
      refine ⟨rfl, ?_⟩
      rcases hp' with rfl | rfl <;> rfl
  | @viewerReads creds msg out hp hout =>
    have hcreds : creds = session c := huses hp
    exact hi.kept hp rfl
      ⟨hcreds, fun hann => (viewerForward_turn hout hann).trans hcreds⟩ (.refl s)
  | toDevice hp =>
    have hkept := huses hp
    exact hi.kept hp rfl hkept (.refl s)
  | @viewerWrites creds device msg p' hp hp' =>
    obtain ⟨hcreds, hmsg⟩ := huses hp
    refine hi.kept hp ?_ ?_ (.write s device o fun hann => ⟨hmsg hann, ?_⟩)
    · rcases hp' with rfl | rfl <;> rfl
    · rcases hp' with rfl | rfl
      · exact hcreds
      · trivial
    · rcases hp' with rfl | rfl <;> rfl
  | leaveNone hp => exact hi.kept hp rfl trivial ((Told.refl s).close c)
  | @leave device hp =>
    exact hi.kept hp rfl trivial
      ((Told.write s device o fun hann => absurd hann (by decide)).close c)

theorem reachable_credsInv (hr : (machine env).Reachable s) :
    ∃ session, CredsInv env session s := by
  refine hr.induct (P := fun s => ∃ session, CredsInv env session s) ?_ ?_
  · rintro s rfl
    exact ⟨fun _ => sessionCreds env 0, fun _ => ⟨0, rfl⟩, fun _ => trivial,
      fun m hm => absurd hm List.not_mem_nil⟩
  · rintro s e s' hr ⟨session, hi⟩ hs
    have hfree : s.phase s.nextConn = .free := phase_free hr _ (Nat.le_refl _)
    cases e with
    | acceptDevice => exact ⟨session, Option.some.inj hs ▸ hi.accept hfree trivial⟩
    | acceptViewer => exact ⟨session, Option.some.inj hs ▸ hi.accept hfree trivial⟩
    | run c o => exact hi.move (next_move hs)

/-! ## 4. When the messages follow the configuration -/

theorem turnEnabled_iff {cfg : Config} :
    cfg.turnEnabled = true ↔ cfg.turnSecret ≠ "" ∧ cfg.turnPublicAddr ≠ "" := by
  simp [Config.turnEnabled]

/-- What `main` hands the hub. -/
theorem env_of_mainHub {cfg : Config} {startTURN : Bool} {deviceID : String}
    {hmac : String → String → String} (h : mainHub cfg startTURN deviceID hmac = some env) :
    env.secret = cfg.turnSecret ∧ env.turnURLs = turnURLs cfg := by
  unfold mainHub at h
  split at h
  · cases h
  · obtain rfl := Option.some.inj h
    exact ⟨rfl, rfl⟩

/-- With a secret, credentials for the URLs that were handed over. -/
theorem sessionCreds_of_secret (h : env.secret ≠ "") (now : Nat) :
    ∃ creds, sessionCreds env now = some creds ∧ creds.urls = env.turnURLs :=
  ⟨_, if_pos h, rfl⟩

theorem turnOf_eq (m : Sent) : turnOf m = m.msg.turn.map TurnCreds.json := json_turn m.msg

/-- The messages follow a configuration that is not partial in this way. -/
theorem CredsInv.turnAsConfigured (hi : CredsInv env session s) {cfg : Config}
    (hsecret : env.secret = cfg.turnSecret) (hurls : env.turnURLs = turnURLs cfg)
    (hfull : cfg.turnSecret ≠ "" → cfg.turnPublicAddr ≠ "") :
    TurnAsConfigured cfg.turnEnabled s := by
  constructor
  · intro hoff m hm hann
    have hempty : env.secret = "" := by
      by_contra hne
      rw [hsecret] at hne
      rw [turnEnabled_iff.mpr ⟨hne, hfull hne⟩] at hoff
      cases hoff
    obtain ⟨now, hnow⟩ := hi.minted m.src
    rw [turnOf_eq, (hi.sent m hm hann).1, hnow, sessionCreds, if_neg (not_not.mpr hempty)]
    rfl
  · intro hon m hm hann
    have hne : env.secret ≠ "" := hsecret ▸ (turnEnabled_iff.mp hon).1
    have hlist : env.turnURLs ≠ [] := by
      rw [hurls, turnURLs, if_pos hon]
      exact List.cons_ne_nil _ _
    obtain ⟨now, hnow⟩ := hi.minted m.src
    obtain ⟨creds, hcreds, hsame⟩ := sessionCreds_of_secret hne now
    rw [hcreds] at hnow
    refine ⟨creds.json, env.turnURLs.map jsonString, ?_, ?_, ?_, ?_⟩
    · rw [turnOf_eq, (hi.sent m hm hann).1, hnow, Option.map_some]
    · rw [TurnCreds.json_urls, hsame, jsonUrls_of_ne_nil hlist]
    · simpa using hlist
    · intro m' hm' hann' hsrc
      rw [turnOf_eq, (hi.sent m' hm' hann').1, hsrc, hnow, Option.map_some]

/-- A device connects, and a viewer gets its `ice_servers`. -/
def announceSchedule : List Event :=
  [.acceptDevice, .run 0 {}, .acceptViewer, .run 1 {}, .run 1 {}, .run 1 {}]

theorem ice_servers_sent (env : Env) : ∃ s, (machine env).Reachable s ∧
    ⟨1, 1, { type := "ice_servers", stun := env.stunURLs, turn := sessionCreds env 0 }, some 1⟩ ∈
      s.sent := by
  have hex : (Machine.exec (step env) .init announceSchedule).map Hub.sent =
      some [⟨1, 1, { type := "ice_servers", stun := env.stunURLs, turn := sessionCreds env 0 },
        some 1⟩] := rfl
  obtain ⟨s, hs, hsent⟩ := Option.map_eq_some_iff.mp hex
  refine ⟨s, Machine.reachable_of_exec hs, ?_⟩
  rw [hsent]
  exact List.mem_singleton.mpr rfl

/-- **The messages of every run follow the configuration exactly when** there is no secret without
a public address.  An address without a secret mints nothing, and with both the lists are not
empty; the one partial setting is left, and one announcement is enough to show it. -/
theorem turn_as_configured_iff (vars : String → Option String) (startTURN : Bool)
    (deviceID : String) (hmac : String → String → String) :
    (∀ env ∈ mainHub (.load vars) startTURN deviceID hmac, ∀ s, (machine env).Reachable s →
      TurnAsConfigured (Config.load vars).turnEnabled s) ↔
    (getEnv vars "TURN_SECRET" "" ≠ "" → getEnv vars "TURN_PUBLIC_ADDR" "" ≠ "") := by
  constructor
  · intro hall hsecret haddr
    have hoff : (Config.load vars).turnEnabled = false := by
      rw [Bool.eq_false_iff]
      intro hon
      exact (turnEnabled_iff.mp hon).2 haddr
    have hmain : mainHub (.load vars) startTURN deviceID hmac =
        some ⟨deviceID, stunURLs (.load vars), turnURLs (.load vars),
          (Config.load vars).turnSecret, (Config.load vars).turnCredTTL, hmac⟩ := by
      rw [mainHub, hoff, Bool.false_and, if_neg Bool.false_ne_true]
    obtain ⟨s, hr, hmem⟩ := ice_servers_sent ⟨deviceID, stunURLs (.load vars),
      turnURLs (.load vars), (Config.load vars).turnSecret, (Config.load vars).turnCredTTL, hmac⟩
    have hnone := (hall _ hmain s hr).off hoff _ hmem (by simp [SignalMsg.announces])
    have hne : (Config.load vars).turnSecret ≠ "" := hsecret
    rw [turnOf_eq, sessionCreds, if_pos hne] at hnone
    cases hnone
  · intro hfull env henv s hr
    obtain ⟨session, hi⟩ := reachable_credsInv hr
    obtain ⟨hsecret, hurls⟩ := env_of_mainHub henv
    exact hi.turnAsConfigured hsecret hurls hfull

/-- A deployment that sets the secret only. -/
def secretOnly (key : String) : Option String := if key = "TURN_SECRET" then some "s3cret" else none

/-- The hub it runs. -/
def secretOnlyHub : Env := ⟨"esp32cam-A1B2C3", [], [], "s3cret", 7200000000000, fun _ _ => ""⟩

/-- **TURN is off, and the viewer is sent credentials**, with null for their URLs. -/
theorem creds_without_server :
    mainHub (.load secretOnly) false "esp32cam-A1B2C3" (fun _ _ => "") = some secretOnlyHub ∧
    (Config.load secretOnly).turnEnabled = false ∧
    ∃ s, (machine secretOnlyHub).Reachable s ∧
      (∃ m ∈ s.sent, ∃ turn, m.msg.type = "ice_servers" ∧ turnOf m = some turn ∧
        turn.field "urls" = some .null) ∧
      ¬TurnAsConfigured (Config.load secretOnly).turnEnabled s := by
  have hoff : (Config.load secretOnly).turnEnabled = false := by decide +kernel
  obtain ⟨s, hr, hmem⟩ := ice_servers_sent secretOnlyHub
  have hcreds : sessionCreds secretOnlyHub 0 = some ⟨[], "7200:esp32cam-A1B2C3", ""⟩ := by
    decide +kernel
  rw [hcreds] at hmem
  refine ⟨rfl, hoff, s, hr, ⟨_, hmem, _, rfl, turnOf_eq _, ?_⟩, ?_⟩
  · exact TurnCreds.json_urls _
  · intro hconf
    have hnone := hconf.off hoff _ hmem rfl
    rw [turnOf_eq] at hnone
    cases hnone

end Backend

end Surveillance
