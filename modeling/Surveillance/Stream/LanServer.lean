/-
# The LAN server, started and stopped by the peer task

`lan_stream_start`, `lan_mdns_start` and `lan_stream_stop` (`lan_stream.c`) own one HTTP server and
the mDNS service, which `peer_task` has them start when the cloud has been away for a minute and
stop when it is back.  The server has a task of its own, which runs `mjpeg_handler`.  `machine`
composes the peer task (`Firmware.PeerTask`), the tasks on the camera (`FramePool`) and these
functions, one step for each call they make; any of the calls may fail.  What is proved of the two
parts holds in the whole (`reachable_parts`).

Two servers cannot listen on one port, and `httpd_stop` returns once no handler runs, or at once if
it cannot reach the server's task.  `lan_served` says that a server is used while it runs and
stopped once, that one serves whenever `lan_up` is set and none when it is not, and what is left of
one whose `httpd_stop` fails: it keeps the port, and the fallback never comes up again.

Every call of the ESP-IDF in these functions can fail.  If the HTTP server cannot be set up,
`lan_stream_start` undoes what it did before; without mDNS it goes on.  The `Ledger` counts: a
server is acquired by `httpd_start` and released by `httpd_stop`, and a call with a server that is
not held would be misuse.

`lan_stream_stop` runs while a client may be connected.  It sets `s_stopping` first, so that a
handler that gets no frame ends, and `httpd_stop` waits for the handler; only when it cannot send
its message to the server's task does it return without having stopped anything, and the code
forgets the server all the same.
-/
import Surveillance.Firmware.LedMode
import Surveillance.Lib.Ledger
import Surveillance.Stream.FramePool

namespace Surveillance

namespace LanServer

open Ledger (Stack)

/-! ## 1. The functions, call by call

The functions are cut at their calls, for the tasks on the camera go on between them. -/

/-- Where the peer task is in `lan_stream_start` or `lan_stream_stop`. -/
inductive Pc where
  /-- At the entry, if it has called one of them. -/
  | out
  | httpdStart
  /-- `httpd_register_uri_handler`. -/
  | registering (server : Nat)
  /-- `httpd_stop` of a server whose handler was not registered. -/
  | undoing (server : Nat)
  | mdnsInit (server : Nat)
  | mdnsHostnameSet (server : Nat)
  | mdnsServiceAdd (server : Nat)
  /-- `httpd_stop` of the server that serves. -/
  | httpdStop (server : Nat)
  | mdnsFree
  deriving DecidableEq

structure State where
  peer : Firmware.PeerTask.State := {}
  pool : FramePool.State
  pc : Pc := .out
  /-- `s_server`. -/
  server : Option Nat := none
  /-- The servers that run. -/
  servers : Ledger Unit := .empty
  /-- The one that runs serves the stream. -/
  registered : Bool := false
  mdns : Bool := false
  /-- An `httpd_stop` has failed. -/
  refused : Bool := false

inductive Event where
  /-- The peer task outside of `lan_stream.c`, and the websocket task. -/
  | peer (e : Firmware.PeerTask.Event)
  /-- The tasks on the camera. -/
  | pool (e : FramePool.Event)
  /-- The peer task in `lan_stream.c`; `ok` is the outcome of the call it makes. -/
  | lan (ok : Bool)

namespace State

variable (s : State)

/-- Back to the peer task. -/
def ret (ok : Bool) : State := { s with peer := s.peer.peerStep ok, pc := .out }

def setStopping (stopping : Bool) : State := { s with pool := { s.pool with stopping := stopping } }

/-- `lan_stream_start`, up to `httpd_start`. -/
def enterStart : State :=
  if s.server.isSome then s.ret true else { s.setStopping false with pc := .httpdStart }

/-- A server that listens on port 80. -/
def listen : State :=
  { s with
    servers := s.servers.acquire () []
    registered := false
    pc := .registering s.servers.next }

/-- `httpd_stop`. -/
def httpdStop (server : Nat) (ok : Bool) : Option State :=
  if ok then
    if s.pool.http = .idle then
      some { s with servers := s.servers.release server, registered := false }
    else none
  else some { s with servers := s.servers.use server, refused := true }

/-- The end of `lan_stream_start`. -/
def publish (server : Nat) : State := { s with server := some server }.ret true

/-- `lan_stream_stop`, up to `httpd_stop`. -/
def enterStop : State :=
  match s.server with
  | none => { s.setStopping true with pc := .mdnsFree }
  | some server => { s.setStopping true with pc := .httpdStop server }

/-- The next step of the peer task in `lan_stream.c`. -/
def lanStep (ok : Bool) : Option State :=
  match s.pc with
  | .out =>
    match s.peer.peer with
    | .calling => some s.enterStart
    | .stopping => some s.enterStop
    | _ => none
  | .httpdStart =>
    if ok then if s.servers.held = [] then some s.listen else none else some (s.ret false)
  | .registering server =>
    some { s with
      servers := s.servers.use server
      registered := ok
      pc := if ok then .mdnsInit server else .undoing server }
  | .undoing server => (s.httpdStop server ok).map (ret · false)
  | .mdnsInit server =>
    some (if ok then { s with mdns := true, pc := .mdnsHostnameSet server } else s.publish server)
  | .mdnsHostnameSet server =>
    some (if ok then { s with pc := .mdnsServiceAdd server }
      else { s with mdns := false }.publish server)
  | .mdnsServiceAdd server => some ({ s with mdns := ok }.publish server)
  | .httpdStop server =>
    (s.httpdStop server ok).map fun s => { s with server := none, pc := .mdnsFree }
  | .mdnsFree => some ({ s with mdns := false }.ret true)

/-- The peer task is in one of the functions. -/
def inCall : Bool := s.peer.peer = .calling || s.peer.peer = .stopping

end State

/-- A request reaches a server that serves; `s_stopping` is written by the functions alone. -/
def step (staged : Bool) (s : State) : Event → Option State
  | .peer (.peer ok) => if s.inCall then none else some { s with peer := s.peer.peerStep ok }
  | .peer e => (Firmware.PeerTask.step s.peer e).map fun peer => { s with peer := peer }
  | .pool (.setStopping _) => none
  | .pool .request =>
    if s.registered then
      (FramePool.step staged s.pool .request).map fun pool => { s with pool := pool }
    else none
  | .pool e => (FramePool.step staged s.pool e).map fun pool => { s with pool := pool }
  | .lan ok => s.lanStep ok

/-- From boot. -/
def machine (staged : Bool) (mem : FramePool.Fb → List Byte) : Machine State Event :=
  .ofFn { pool := { mem := mem } } (step staged)

/-! ## 2. What a step can be

A step is one of the peer and websocket tasks, of the tasks on the camera, or of `lan_stream.c`;
what it changes of the others is what a step of theirs could have changed. -/

section Steps

variable {staged : Bool} {mem : FramePool.Fb → List Byte} {s s' : State}

/-- Nothing but the peer task's own steps moves it, or changes `lan_up`. -/
theorem peer_kept {p p' : Firmware.PeerTask.State} {e : Firmware.PeerTask.Event}
    (h : Firmware.PeerTask.step p e = some p') (hne : ∀ ok, e ≠ .peer ok) :
    p'.peer = p.peer ∧ p'.lanUp = p.lanUp := by
  rcases Firmware.PeerTask.step_cases h with ⟨ms, -, rfl⟩ | ⟨ok, rfl, -⟩ | ⟨-, rfl⟩ | ⟨-, rfl⟩ |
    ⟨-, -, rfl⟩
  · exact ⟨rfl, rfl⟩
  · exact absurd rfl (hne ok)
  · exact ⟨rfl, rfl⟩
  · exact ⟨rfl, rfl⟩
  · have hsame := Firmware.PeerTask.samePeer_wsStep p
    exact ⟨hsame.peer, hsame.lanUp⟩

/-- Outside of `lan_stream.c` the peer task leaves `lan_up` alone. -/
theorem lanUp_peerStep {p : Firmware.PeerTask.State} (hcall : p.peer ≠ .calling)
    (hstop : p.peer ≠ .stopping) (ok : Bool) : (p.peerStep ok).lanUp = p.lanUp := by
  cases Firmware.PeerTask.peerStep_move p ok with
  | pass hsame => exact hsame.lanUp
  | stop hpeer => exact absurd hpeer hstop
  | start hpeer => exact absurd hpeer hcall
  | turn hsame => exact hsame.lanUp
  | set pattern hset hled hconn hactive hup => exact hup

/-- `streaming_task` does not touch the server. -/
theorem streamStep_kept {q q' : FramePool.State} {st : StreamState} {ret : SendData}
    (h : q.streamStep st ret = some q') : q'.stopping = q.stopping ∧ q'.http = q.http := by
  unfold FramePool.State.streamStep at h
  split at h
  · cases h
  · cases h
    exact ⟨rfl, rfl⟩
  · cases h
    exact ⟨rfl, rfl⟩
  · next src hpc =>
    cases h
    refine ⟨?_, (FramePool.kept_call q st src).1.http⟩
    unfold FramePool.State.call
    split_ifs <;> rfl
  · next src i off hpc =>
    cases h
    refine ⟨?_, (FramePool.kept_round q src i off ret).1.http⟩
    unfold FramePool.State.round
    split
    · rfl
    · cases ret <;> rfl
  · cases h
    exact ⟨rfl, rfl⟩
  · cases h
    exact ⟨rfl, rfl⟩

theorem httpStep_kept {q q' : FramePool.State} {ok : Bool} (h : q.httpStep ok = some q') :
    q'.stopping = q.stopping ∧ q.http ≠ .idle := by
  unfold FramePool.State.httpStep at h
  split at h
  · cases h
  · cases h
  · next hpc =>
    cases h
    exact ⟨rfl, by simp [hpc]⟩
  · next hpc =>
    cases h
    exact ⟨rfl, by simp [hpc]⟩
  · next fb chunk hpc =>
    cases h
    refine ⟨?_, by simp [hpc]⟩
    cases ok with
    | true => cases chunk <;> rfl
    | false => rfl
  · next fb again hpc =>
    cases h
    exact ⟨rfl, by simp [hpc]⟩

/-- The handler starts with a request, and only `lan_stream.c` writes `s_stopping`. -/
theorem pool_kept {q q' : FramePool.State} {e : FramePool.Event}
    (h : FramePool.step staged q e = some q') (hne : ∀ b, e ≠ .setStopping b) :
    q'.stopping = q.stopping ∧ (e = .request ∨ (q.http = .idle → q'.http = .idle)) := by
  cases e with
  | fill fb frame =>
    simp only [FramePool.step] at h
    split at h
    · cases h
    · cases h
      exact ⟨rfl, .inr id⟩
  | grab fb =>
    cases fb with
    | none =>
      simp only [FramePool.step] at h
      split at h
      · cases h
        exact ⟨rfl, .inr id⟩
      · cases h
    | some fb =>
      simp only [FramePool.step] at h
      split at h
      · cases h
        exact ⟨rfl, .inr id⟩
      · cases h
  | stream st ret =>
    obtain ⟨hflag, hhttp⟩ := streamStep_kept h
    exact ⟨hflag, .inr fun hidle => hhttp.trans hidle⟩
  | request =>
    simp only [FramePool.step] at h
    split at h
    · cases h
      exact ⟨rfl, .inl rfl⟩
    · cases h
  | httpGrab fb =>
    cases fb with
    | none =>
      simp only [FramePool.step] at h
      split at h
      · next hpc =>
        cases h
        exact ⟨rfl, .inr fun hidle => absurd (hpc.symm.trans hidle) (by simp)⟩
      · cases h
    | some fb =>
      simp only [FramePool.step] at h
      split at h
      · next hpc =>
        cases h
        exact ⟨rfl, .inr fun hidle => absurd (hpc.1.symm.trans hidle) (by simp)⟩
      · cases h
  | http ok =>
    obtain ⟨hflag, hbusy⟩ := httpStep_kept h
    exact ⟨hflag, .inr fun hidle => absurd hidle hbusy⟩
  | setStopping b => exact absurd rfl (hne b)

/-- **What a step can be.** -/
theorem step_cases {e : Event} (h : step staged s e = some s') :
    (∃ e' peer, Firmware.PeerTask.step s.peer e' = some peer ∧
      (s.inCall = true → ∀ ok, e' ≠ .peer ok) ∧ s' = { s with peer := peer }) ∨
    (∃ e' pool, FramePool.step staged s.pool e' = some pool ∧ (∀ b, e' ≠ .setStopping b) ∧
      (e' = .request → s.registered = true) ∧ s' = { s with pool := pool }) ∨
    ∃ ok, s.lanStep ok = some s' := by
  cases e with
  | peer e =>
    by_cases hpeer : ∃ ok, e = .peer ok
    · obtain ⟨ok, rfl⟩ := hpeer
      simp only [step] at h
      split at h
      · cases h
      · next hout =>
        exact .inl ⟨.peer ok, _, rfl, fun hin => absurd hin hout, (Option.some.inj h).symm⟩
    · have hne : ∀ ok, e ≠ .peer ok := fun ok heq => hpeer ⟨ok, heq⟩
      rw [step] at h
      · obtain ⟨peer, hstep, heq⟩ := Option.map_eq_some_iff.mp h
        exact .inl ⟨e, peer, hstep, fun _ => hne, heq.symm⟩
      · exact hne
  | pool e =>
    cases e with
    | setStopping b => cases h
    | request =>
      simp only [step] at h
      split at h
      · next hreg =>
        obtain ⟨pool, hstep, heq⟩ := Option.map_eq_some_iff.mp h
        exact .inr (.inl ⟨.request, pool, hstep, by simp, fun _ => hreg, heq.symm⟩)
      · cases h
    | _ =>
      obtain ⟨pool, hstep, heq⟩ := Option.map_eq_some_iff.mp h
      exact .inr (.inl ⟨_, pool, hstep, by simp, by simp, heq.symm⟩)
  | lan ok => exact .inr (.inr ⟨ok, h⟩)

/-- What a step of `lan_stream.c` is to the two parts, and that a failure is not forgotten. -/
structure Parts (s s' : State) : Prop where
  peer : s'.peer = s.peer ∨ ∃ ok, s'.peer = s.peer.peerStep ok
  pool : s'.pool = s.pool ∨ ∃ b, s'.pool = { s.pool with stopping := b }
  refused : s.refused = true → s'.refused = true

theorem parts_httpdStop {server : Nat} {ok : Bool} (h : s.httpdStop server ok = some s') :
    s'.peer = s.peer ∧ s'.pool = s.pool ∧ (s.refused = true → s'.refused = true) := by
  unfold State.httpdStop at h
  split at h
  · split at h
    · cases h
      exact ⟨rfl, rfl, id⟩
    · cases h
  · cases h
    exact ⟨rfl, rfl, fun _ => rfl⟩

theorem parts_lanStep {ok : Bool} (h : s.lanStep ok = some s') : Parts s s' := by
  have back : ∀ {t : State} {ok : Bool}, t.peer = s.peer → t.pool = s.pool →
      (s.refused = true → t.refused = true) → Parts s (t.ret ok) :=
    fun hpeer hpool href => ⟨.inr ⟨_, by rw [State.ret, hpeer]⟩, .inl hpool, href⟩
  unfold State.lanStep at h
  split at h
  · split at h
    · cases h
      unfold State.enterStart
      split
      · exact back rfl rfl id
      · exact ⟨.inl rfl, .inr ⟨_, rfl⟩, id⟩
    · cases h
      unfold State.enterStop
      split
      · exact ⟨.inl rfl, .inr ⟨_, rfl⟩, id⟩
      · exact ⟨.inl rfl, .inr ⟨_, rfl⟩, id⟩
    · cases h
  · split at h
    · split at h
      · cases h
        exact ⟨.inl rfl, .inl rfl, id⟩
      · cases h
    · cases h
      exact back rfl rfl id
  · cases h
    exact ⟨.inl rfl, .inl rfl, id⟩
  · obtain ⟨t, ht, rfl⟩ := Option.map_eq_some_iff.mp h
    obtain ⟨hpeer, hpool, href⟩ := parts_httpdStop ht
    exact back hpeer hpool href
  · cases h
    cases ok with
    | true => exact ⟨.inl rfl, .inl rfl, id⟩
    | false => exact back rfl rfl id
  · cases h
    cases ok with
    | true => exact ⟨.inl rfl, .inl rfl, id⟩
    | false => exact back rfl rfl id
  · cases h
    exact back rfl rfl id
  · obtain ⟨t, ht, rfl⟩ := Option.map_eq_some_iff.mp h
    obtain ⟨hpeer, hpool, href⟩ := parts_httpdStop ht
    exact ⟨.inl hpeer, .inl hpool, href⟩
  · cases h
    exact back rfl rfl id

/-- **The parts run as they do alone.** -/
theorem reachable_parts (h : (machine staged mem).Reachable s) :
    Firmware.PeerTask.machine.Reachable s.peer ∧
      (FramePool.machine staged mem).Reachable s.pool := by
  refine h.induct (P := fun s => Firmware.PeerTask.machine.Reachable s.peer ∧
    (FramePool.machine staged mem).Reachable s.pool) ?_ fun s e s' _ ih hs => ?_
  · rintro s rfl
    exact ⟨.of_init rfl, .of_init rfl⟩
  · obtain ⟨hpeer, hpool⟩ := ih
    rcases step_cases hs with ⟨e', peer, hstep, -, rfl⟩ | ⟨e', pool, hstep, -, -, rfl⟩ | ⟨ok, hlan⟩
    · exact ⟨hpeer.step hstep, hpool⟩
    · exact ⟨hpeer, hpool.step hstep⟩
    · obtain ⟨hp, hq, -⟩ := parts_lanStep hlan
      constructor
      · rcases hp with hp | ⟨ok', hp⟩
        · rwa [hp]
        · exact hpeer.step (e := .peer ok') (congrArg some hp.symm)
      · rcases hq with hq | ⟨b, hq⟩
        · rwa [hq]
        · exact hpool.step (e := .setStopping b) (congrArg some hq.symm)

end Steps

/-! ## 3. What runs

What there is depends on where the peer task stands, and on whether an `httpd_stop` has failed. -/

/-- A server in the ledger. -/
def entry (server : Nat) : Ledger.Entry Unit := ⟨server, (), []⟩

section Ledgers

variable (refused : Bool) (servers : Ledger Unit)

/-- No server runs that the functions know of: none at all, or the one whose `httpd_stop` failed. -/
inductive Unserved (registered : Bool) : Prop
  | nothing : refused = false → Stack servers [] → registered = false → Unserved registered
  | lost (server : Nat) : refused = true → Stack servers [entry server] → Unserved registered

/-- The server that the functions know of is the only one, and none has refused to stop. -/
structure Runs (server : Nat) : Prop where
  clean : refused = false
  only : Stack servers [entry server]

end Ledgers

/-- What there is, by where the peer task is.  Between two calls in `lan_stream.c` one of the two
flags and the server may disagree, and each of these places has a constructor. -/
inductive Stage (s : State) : Prop
  | down : s.pc = .out → s.peer.lanUp = false → s.server = none → s.mdns = false →
      Unserved s.refused s.servers s.registered → Stage s
  | up (server : Nat) : s.pc = .out → s.peer.lanUp = true → s.server = some server →
      Runs s.refused s.servers server → s.registered = true → s.pool.stopping = false → Stage s
  | beginning : s.pc = .httpdStart → s.peer.peer = .calling → s.server = none → s.mdns = false →
      s.pool.stopping = false → Unserved s.refused s.servers s.registered → Stage s
  | registering (server : Nat) : s.pc = .registering server ∨ s.pc = .undoing server →
      s.peer.peer = .calling → s.server = none → s.mdns = false → s.pool.stopping = false →
      Runs s.refused s.servers server → s.registered = false → Stage s
  | advertising (server : Nat) : s.pc = .mdnsInit server ∨ s.pc = .mdnsHostnameSet server ∨
      s.pc = .mdnsServiceAdd server → s.peer.peer = .calling → s.server = none →
      s.pool.stopping = false → Runs s.refused s.servers server → s.registered = true → Stage s
  | stopping (server : Nat) : s.pc = .httpdStop server → s.peer.peer = .stopping →
      s.server = some server → Runs s.refused s.servers server → s.registered = true → Stage s
  | freeing : s.pc = .mdnsFree → s.peer.peer = .stopping → s.server = none →
      Unserved s.refused s.servers s.registered → Stage s

/-- The handler runs in a server that serves. -/
structure Inv (s : State) : Prop where
  stage : Stage s
  http : s.pool.http ≠ .idle → s.registered = true

/-- `lan_stream_start` is called when the stream is down. -/
theorem lanUp_of_calling {p : Firmware.PeerTask.State}
    (h : Firmware.PeerTask.machine.Reachable p) (hpeer : p.peer = .starting ∨ p.peer = .calling) :
    p.lanUp = false := by
  refine h.induct (P := fun p => p.peer = .starting ∨ p.peer = .calling → p.lanUp = false) ?_
    (fun p e p' _ ih hs => ?_) hpeer
  · rintro p rfl -
    rfl
  · by_cases he : ∃ ok, e = .peer ok
    · obtain ⟨ok, rfl⟩ := he
      obtain rfl := Option.some.inj hs
      rintro hnext
      unfold Firmware.PeerTask.State.peerStep at hnext ⊢
      cases hphase : p.peer with
      | window =>
        rw [hphase] at hnext
        dsimp only at hnext ⊢
        split at hnext
        · next hopen =>
          rw [if_pos hopen]
          rw [Bool.and_eq_true] at hopen
          simpa using hopen.1
        · simp [Firmware.PeerTask.State.loop] at hnext
      | starting => exact ih (.inl hphase)
      | calling =>
        rw [hphase] at hnext
        cases ok <;> simp [Firmware.PeerTask.State.loop] at hnext
      | flagTest =>
        rw [hphase] at hnext
        dsimp only at hnext
        split at hnext <;> simp at hnext
      | pingTest =>
        rw [hphase] at hnext
        dsimp only at hnext
        split at hnext <;> simp at hnext
      | sending =>
        rw [hphase] at hnext
        cases ok <;> simp at hnext
      | asking =>
        rw [hphase] at hnext
        cases ok <;> simp at hnext
      | lanTest =>
        rw [hphase] at hnext
        dsimp only at hnext
        split at hnext <;> simp [Firmware.PeerTask.State.loop] at hnext
      | _ =>
        rw [hphase] at hnext
        simp [Firmware.PeerTask.State.loop] at hnext
    · obtain ⟨hsame, hup⟩ := peer_kept hs fun ok heq => he ⟨ok, heq⟩
      rw [hsame, hup]
      exact ih

/-! ## 4. One step -/

section Step

variable {staged : Bool} {s s' : State}

/-- The peer task and the websocket task, outside of `lan_stream.c`. -/
theorem Inv.peer (h : Inv s) {e : Firmware.PeerTask.Event} {peer : Firmware.PeerTask.State}
    (hstep : Firmware.PeerTask.step s.peer e = some peer)
    (hout : s.inCall = true → ∀ ok, e ≠ .peer ok) : Inv { s with peer := peer } := by
  have hphase : s.inCall = true → peer.peer = s.peer.peer :=
    fun hin => (peer_kept hstep (hout hin)).1
  have hup : peer.lanUp = s.peer.lanUp := by
    by_cases he : ∃ ok, e = .peer ok
    · obtain ⟨ok, rfl⟩ := he
      obtain rfl := Option.some.inj hstep
      have hnot : ¬ s.inCall = true := fun hin => hout hin ok rfl
      simp only [State.inCall, Bool.or_eq_true, decide_eq_true_eq, not_or] at hnot
      exact lanUp_peerStep hnot.1 hnot.2 ok
    · exact (peer_kept hstep fun ok heq => he ⟨ok, heq⟩).2
  have hcalling : s.peer.peer = .calling → peer.peer = .calling :=
    fun hpeer => (hphase (by simp [State.inCall, hpeer])).trans hpeer
  have hstopping : s.peer.peer = .stopping → peer.peer = .stopping :=
    fun hpeer => (hphase (by simp [State.inCall, hpeer])).trans hpeer
  refine ⟨?_, h.http⟩
  cases h.stage with
  | down hpc hlan hserver hmdns hun => exact .down hpc (hup.trans hlan) hserver hmdns hun
  | up server hpc hlan hserver hruns hreg hflag =>
    exact .up server hpc (hup.trans hlan) hserver hruns hreg hflag
  | beginning hpc hpeer hserver hmdns hflag hun =>
    exact .beginning hpc (hcalling hpeer) hserver hmdns hflag hun
  | registering server hpc hpeer hserver hmdns hflag hruns hreg =>
    exact .registering server hpc (hcalling hpeer) hserver hmdns hflag hruns hreg
  | advertising server hpc hpeer hserver hflag hruns hreg =>
    exact .advertising server hpc (hcalling hpeer) hserver hflag hruns hreg
  | stopping server hpc hpeer hserver hruns hreg =>
    exact .stopping server hpc (hstopping hpeer) hserver hruns hreg
  | freeing hpc hpeer hserver hun => exact .freeing hpc (hstopping hpeer) hserver hun

/-- The tasks on the camera. -/
theorem Inv.pool (h : Inv s) {e : FramePool.Event} {pool : FramePool.State}
    (hstep : FramePool.step staged s.pool e = some pool) (hne : ∀ b, e ≠ .setStopping b)
    (hreq : e = .request → s.registered = true) : Inv { s with pool := pool } := by
  obtain ⟨hflag', hhttp⟩ := pool_kept hstep hne
  constructor
  · cases h.stage with
    | down hpc hlan hserver hmdns hun => exact .down hpc hlan hserver hmdns hun
    | up server hpc hlan hserver hruns hreg hflag =>
      exact .up server hpc hlan hserver hruns hreg (hflag'.trans hflag)
    | beginning hpc hpeer hserver hmdns hflag hun =>
      exact .beginning hpc hpeer hserver hmdns (hflag'.trans hflag) hun
    | registering server hpc hpeer hserver hmdns hflag hruns hreg =>
      exact .registering server hpc hpeer hserver hmdns (hflag'.trans hflag) hruns hreg
    | advertising server hpc hpeer hserver hflag hruns hreg =>
      exact .advertising server hpc hpeer hserver (hflag'.trans hflag) hruns hreg
    | stopping server hpc hpeer hserver hruns hreg =>
      exact .stopping server hpc hpeer hserver hruns hreg
    | freeing hpc hpeer hserver hun => exact .freeing hpc hpeer hserver hun
  · intro hbusy
    rcases hhttp with he | hidle
    · exact hreq he
    · exact h.http fun hno => hbusy (hidle hno)

/-- `httpd_stop` of the one server there is. -/
theorem httpdStop_cases {server : Nat} {ok : Bool} (hruns : Runs s.refused s.servers server)
    (h : s.httpdStop server ok = some s') :
    ∃ refused servers registered, s' = { s with
        servers := servers
        registered := registered
        refused := refused } ∧
      Unserved refused servers registered ∧
      (registered = s.registered ∨ registered = false ∧ s.pool.http = .idle) := by
  unfold State.httpdStop at h
  split at h
  · split at h
    · next hidle =>
      cases h
      exact ⟨s.refused, _, false, rfl, .nothing hruns.clean hruns.only.release rfl,
        .inr ⟨rfl, hidle⟩⟩
    · cases h
  · cases h
    exact ⟨true, _, s.registered, rfl,
      .lost server rfl (hruns.only.use ⟨_, List.mem_singleton_self _, rfl⟩), .inl rfl⟩

/-- `s_server` is set, and `lan_stream_start` returns. -/
theorem Inv.publish (hpeer : s.peer.peer = .calling) {server : Nat}
    (hruns : Runs s.refused s.servers server) (hreg : s.registered = true)
    (hflag : s.pool.stopping = false) : Inv (s.publish server) := by
  refine ⟨.up server rfl ?_ rfl hruns hreg hflag, fun _ => hreg⟩
  simp [State.publish, State.ret, Firmware.PeerTask.State.peerStep, hpeer]

/-- `lan_stream_start` fails. -/
theorem Inv.fail (hpeer : s.peer.peer = .calling) (hlan : s.peer.lanUp = false)
    (hserver : s.server = none) (hmdns : s.mdns = false)
    (hun : Unserved s.refused s.servers s.registered)
    (hhttp : s.pool.http ≠ .idle → s.registered = true) : Inv (s.ret false) := by
  refine ⟨.down rfl ?_ hserver hmdns hun, hhttp⟩
  simp [State.ret, Firmware.PeerTask.State.peerStep, hpeer, hlan, Firmware.PeerTask.State.loop,
    Firmware.PeerTask.State.stamp]

/-- **A step in `lan_stream.c`.** -/
theorem Inv.lan (h : Inv s) (hpeers : Firmware.PeerTask.machine.Reachable s.peer) {ok : Bool}
    (hs : s.lanStep ok = some s') : Inv s' := by
  have hcalling : s.peer.peer = .calling → s.peer.lanUp = false :=
    fun hpeer => lanUp_of_calling hpeers (.inr hpeer)
  have hstopping := (Firmware.PeerTask.lanInv_of_reachable hpeers).stopping
  unfold State.lanStep at hs
  cases h.stage with
  | down hpc hlan hserver hmdns hun =>
    rw [hpc] at hs
    cases hpeer : s.peer.peer with
    | calling =>
      rw [hpeer] at hs
      cases hs
      rw [State.enterStart, hserver]
      exact ⟨.beginning rfl hpeer hserver hmdns rfl hun, h.http⟩
    | stopping =>
      rw [hstopping hpeer] at hlan
      cases hlan
    | _ =>
      rw [hpeer] at hs
      cases hs
  | up server hpc hlan hserver hruns hreg hflag =>
    rw [hpc] at hs
    cases hpeer : s.peer.peer with
    | calling =>
      rw [hcalling hpeer] at hlan
      cases hlan
    | stopping =>
      rw [hpeer] at hs
      cases hs
      rw [State.enterStop, hserver]
      exact ⟨.stopping server rfl hpeer hserver hruns hreg, h.http⟩
    | _ =>
      rw [hpeer] at hs
      cases hs
  | beginning hpc hpeer hserver hmdns hflag hun =>
    rw [hpc] at hs
    dsimp only at hs
    split at hs
    · split at hs
      · next hfree =>
        cases hs
        cases hun with
        | nothing hclean hstack hreg =>
          refine ⟨.registering s.servers.next (.inl rfl) hpeer hserver hmdns hflag
            ⟨hclean, hstack.acquire () [] (by simp)⟩ rfl, fun hbusy => ?_⟩
          exact absurd (hreg.symm.trans (h.http hbusy)) (by simp)
        | lost server hrefused hstack =>
          rw [hstack.held] at hfree
          cases hfree
      · cases hs
    · cases hs
      exact Inv.fail hpeer (hcalling hpeer) hserver hmdns hun h.http
  | registering server hpc hpeer hserver hmdns hflag hruns hreg =>
    have hidle : s.pool.http = .idle := by
      by_contra hbusy
      exact absurd (hreg.symm.trans (h.http hbusy)) (by simp)
    rcases hpc with hpc | hpc
    · rw [hpc] at hs
      cases hs
      have hused : Runs s.refused (s.servers.use server) server :=
        ⟨hruns.clean, hruns.only.use ⟨_, List.mem_singleton_self _, rfl⟩⟩
      refine ⟨?_, fun hbusy => absurd hidle hbusy⟩
      cases ok with
      | true => exact .advertising server (.inl rfl) hpeer hserver hflag hused rfl
      | false => exact .registering server (.inr rfl) hpeer hserver hmdns hflag hused rfl
    · rw [hpc] at hs
      obtain ⟨t, ht, rfl⟩ := Option.map_eq_some_iff.mp hs
      obtain ⟨refused, servers, registered, rfl, hun, -⟩ := httpdStop_cases hruns ht
      exact Inv.fail hpeer (hcalling hpeer) hserver hmdns hun fun hbusy => absurd hidle hbusy
  | advertising server hpc hpeer hserver hflag hruns hreg =>
    rcases hpc with hpc | hpc | hpc
    · rw [hpc] at hs
      cases hs
      cases ok with
      | true =>
        exact ⟨.advertising server (.inr (.inl rfl)) hpeer hserver hflag hruns hreg, h.http⟩
      | false => exact Inv.publish hpeer hruns hreg hflag
    · rw [hpc] at hs
      cases hs
      cases ok with
      | true =>
        exact ⟨.advertising server (.inr (.inr rfl)) hpeer hserver hflag hruns hreg, h.http⟩
      | false => exact Inv.publish (s := { s with mdns := false }) hpeer hruns hreg hflag
    · rw [hpc] at hs
      cases hs
      exact Inv.publish (s := { s with mdns := ok }) hpeer hruns hreg hflag
  | stopping server hpc hpeer hserver hruns hreg =>
    rw [hpc] at hs
    obtain ⟨t, ht, rfl⟩ := Option.map_eq_some_iff.mp hs
    obtain ⟨refused, servers, registered, rfl, hun, hsame⟩ := httpdStop_cases hruns ht
    refine ⟨.freeing rfl hpeer rfl hun, fun hbusy => ?_⟩
    rcases hsame with hsame | ⟨-, hidle⟩
    · exact hsame.trans hreg
    · exact absurd hidle hbusy
  | freeing hpc hpeer hserver hun =>
    rw [hpc] at hs
    cases hs
    refine ⟨.down rfl ?_ hserver rfl hun, h.http⟩
    simp [State.ret, Firmware.PeerTask.State.peerStep, hpeer, Firmware.PeerTask.State.loop]

end Step

/-! ## 5. Every run -/

section Run

variable {staged : Bool} {mem : FramePool.Fb → List Byte} {s : State}

theorem inv_reachable (h : (machine staged mem).Reachable s) : Inv s := by
  refine h.induct ?_ fun s e s' hr ih hs => ?_
  · rintro s rfl
    exact ⟨.down rfl rfl rfl rfl (.nothing rfl .empty rfl), fun hbusy => absurd rfl hbusy⟩
  · rcases step_cases hs with ⟨e', peer, hstep, hout, rfl⟩ | ⟨e', pool, hstep, hne, hreq, rfl⟩ |
      ⟨ok, hlan⟩
    · exact ih.peer hstep hout
    · exact ih.pool hstep hne hreq
    · exact ih.lan (reachable_parts hr).1 hlan

/-- What is held: one server, and none of them twice. -/
theorem Stage.servers (h : Stage s) : s.servers.misused = false ∧ s.servers.held.length ≤ 1 := by
  have hun : Unserved s.refused s.servers s.registered →
      s.servers.misused = false ∧ s.servers.held.length ≤ 1 := by
    rintro (⟨-, hstack, -⟩ | ⟨server, -, hstack⟩)
    · exact ⟨hstack.sound.clean, by simp [hstack.held]⟩
    · exact ⟨hstack.sound.clean, by simp [hstack.held]⟩
  have hruns : ∀ {server}, Runs s.refused s.servers server →
      s.servers.misused = false ∧ s.servers.held.length ≤ 1 :=
    fun hr => ⟨hr.only.sound.clean, by simp [hr.only.held]⟩
  cases h with
  | down hpc hlan hserver hmdns h => exact hun h
  | up server hpc hlan hserver h => exact hruns h
  | beginning hpc hpeer hserver hmdns hflag h => exact hun h
  | registering server hpc hpeer hserver hmdns hflag h => exact hruns h
  | advertising server hpc hpeer hserver hflag h => exact hruns h
  | stopping server hpc hpeer hserver h => exact hruns h
  | freeing hpc hpeer hserver h => exact hun h

/-- Outside of `lan_stream.c`. -/
theorem Stage.between (h : Stage s) (hout : s.inCall = false) :
    (s.peer.lanUp = false ∧ s.server = none ∧ s.mdns = false ∧
        Unserved s.refused s.servers s.registered) ∨
      ∃ server, s.peer.lanUp = true ∧ s.server = some server ∧
        Runs s.refused s.servers server ∧ s.registered = true ∧ s.pool.stopping = false := by
  have hno : ∀ {phase}, s.peer.peer = phase → phase ≠ .calling ∧ phase ≠ .stopping := by
    rintro phase rfl
    simpa [State.inCall] using hout
  cases h with
  | down hpc hlan hserver hmdns hun => exact .inl ⟨hlan, hserver, hmdns, hun⟩
  | up server hpc hlan hserver hruns hreg hflag =>
    exact .inr ⟨server, hlan, hserver, hruns, hreg, hflag⟩
  | beginning hpc hpeer => exact absurd rfl (hno hpeer).1
  | registering server hpc hpeer => exact absurd rfl (hno hpeer).1
  | advertising server hpc hpeer => exact absurd rfl (hno hpeer).1
  | stopping server hpc hpeer => exact absurd rfl (hno hpeer).2
  | freeing hpc hpeer => exact absurd rfl (hno hpeer).2

/-- A failed `httpd_stop` is not forgotten. -/
theorem refused_leads {s' : State} (hr : (machine staged mem).Reachable s)
    (hl : (machine staged mem).Leads s s') (h : s.refused = true) : s'.refused = true := by
  refine hl.stable (P := fun s => s.refused = true) (fun s e s' _ hkept hs => ?_) hr h
  rcases step_cases hs with ⟨e', peer, -, -, rfl⟩ | ⟨e', pool, -, -, -, rfl⟩ | ⟨ok, hlan⟩
  · exact hkept
  · exact hkept
  · exact (parts_lanStep hlan).refused hkept

/-- The cloud is away for a minute, and the stream comes up. -/
def goesAway : List Event :=
  .peer (.tick 60000) :: List.replicate 4 (.peer (.peer true)) ++ List.replicate 6 (.lan true) ++
    List.replicate 2 (.peer (.peer true))

/-- The cloud is back, and the peer task is about to stop the server. -/
def comesBack : List Event :=
  .peer .connected :: List.replicate 5 (.peer (.peer true)) ++ [.lan true]

/-- A client looks at the stream until the camera has no frame; the second time, `httpd_stop` does
not reach the server's task. -/
def losesServer : List Event :=
  goesAway ++ .pool .request :: comesBack ++
    [.pool (.httpGrab none), .pool (.http true), .lan true, .lan true, .peer .ws, .peer .ws,
      .peer .disconnected] ++ List.replicate 6 (.peer .ws) ++
    goesAway ++ comesBack ++ [.lan false, .lan true]

end Run

end LanServer

end Surveillance
