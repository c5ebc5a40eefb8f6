/-
# Two tasks and the camera's two framebuffers

`streaming_task` (`app_main.c`) sends frames over the data channel and `mjpeg_handler`
(`lan_stream.c`) over HTTP, both straight from the camera, which has two framebuffers (`camera.c`).
A buffer is handed out by `camera_capture` and may be filled again as soon as `camera_release` gives
it back, so a task that read it later would send a torn frame, and one that gave it back twice would
take it from the other.

`machine` runs the two tasks step by step, chunk by chunk, with the camera filling whatever is not
handed out.  **Whatever the interleaving** (`frames_intact`): a buffer is in the hands of one task
and given back once, what a call of `webrtc_stream_send_frame` puts on the channel is what
`sendFrame` puts there for the frame as it was captured, staged or not, and a response consists of
the parts of the frames as they were captured.

Without a staging buffer a frame is sent from where it was captured, and the framebuffer is kept
until the last chunk is out; with one it is copied first and given back at once.  Both ways are in
the machine, chosen by whether the allocation at boot succeeded and by the size of the frame.

The chunk loop of `Wire.lean` is one function there and many steps here, since the camera and the
other task go on between two chunks.  `Progress` is its loop invariant over these steps: the packets
sent so far, from the bytes of the frame as it was captured, are those of `sendFrame` up to this
chunk.  When the loop ends it has done what `sendFrame` does at one go (`Call.atOnce`), and the
results about calls apply to it.
-/
import Mathlib.Logic.Function.Basic
import Surveillance.Firmware.LanStream
import Surveillance.Firmware.StreamInit
import Surveillance.Stream.Delivery

namespace Surveillance

namespace FramePool

open Firmware (stagingSize)
open Firmware.LanStream (Chunk partBufSize partHeader)

/-! ## 1. The buffers and the tasks

Where a task stands is in its program counter, with the buffer it has in hand. -/

/-- `fb_count`. -/
abbrev Fb := Fin 2

/-- The buffer that `webrtc_stream_send_frame` is called on. -/
inductive Source where
  | staging
  | fb (fb : Fb)
  deriving DecidableEq

/-- `streaming_task`: what it does next. -/
inductive StreamPc where
  | capturing
  /-- `memcpy` into the staging buffer. -/
  | copying (fb : Fb)
  /-- `camera_release`, once the frame is staged. -/
  | freeing (fb : Fb)
  /-- `webrtc_stream_send_frame`. -/
  | calling (src : Source)
  /-- Its loop, at chunk `i` and byte `off`. -/
  | chunks (src : Source) (i off : Nat)
  /-- It has returned; a frame that was not staged is released. -/
  | returned (src : Source)
  deriving DecidableEq

/-- `mjpeg_handler`, and the task of the server that runs it. -/
inductive HttpPc where
  | idle
  | capturing
  /-- There is no frame; `s_stopping` is tested. -/
  | testing
  | delaying
  | sending (fb : Fb) (chunk : Chunk)
  /-- `camera_release`, and then another frame or the end. -/
  | freeing (fb : Fb) (again : Bool)
  deriving DecidableEq

/-- A call of `webrtc_stream_send_frame` that has returned: how many chunks the channel accepted,
and what it said to the next one. -/
structure Call where
  st : StreamState
  frame : List Byte
  accepted : Nat
  last : SendData
  err : EspErr

def Call.ret (c : Call) (i : Nat) : SendData := if i < c.accepted then .none else c.last

structure State where
  /-- `fb->buf`, `fb->len` bytes. -/
  mem : Fb → List Byte
  /-- Handed out by the driver. -/
  out : Fb → Bool := fun _ => false
  staging : List Byte := []
  frameLen : Nat := 0
  stream : StreamPc := .capturing
  http : HttpPc := .idle
  stopping : Bool := false
  /-- What the channel has accepted, and the client of the response there is or was last. -/
  packets : List Packet := []
  body : List (List Byte) := []
  /-- A buffer was given back that was not handed out. -/
  misused : Bool := false
  -- the frames each task was handed, and what became of them
  grabs : List (List Byte) := []
  grabbed : List Byte := []
  calls : List Call := []
  handed : List (List Byte) := []
  served : List Byte := []
  parts : List (List Byte) := []

inductive Event where
  /-- The camera fills a buffer. -/
  | fill (fb : Fb) (frame : List Byte)
  /-- `camera_capture` returns in `streaming_task`. -/
  | grab (fb : Option Fb)
  /-- Its next step; `st` and `ret` are what `webrtc_stream_send_frame` finds and is told. -/
  | stream (st : StreamState) (ret : SendData)
  /-- A client asks for the stream. -/
  | request
  | httpGrab (fb : Option Fb)
  /-- The handler's next step; `ok` is what `httpd_resp_send_chunk` returns. -/
  | http (ok : Bool)
  /-- `lan_stream_start` and `lan_stream_stop` set the flag. -/
  | setStopping (stopping : Bool)

namespace State

variable (s : State)

/-- `esp_camera_fb_return`. -/
def giveBack (fb : Fb) : State :=
  { s with out := Function.update s.out fb false, misused := s.misused || !s.out fb }

/-- `buf[0..len)`. -/
def bytes : Source → List Byte
  | .staging => s.staging.take s.frameLen
  | .fb fb => (s.mem fb).take s.frameLen

/-- `webrtc_stream_send_frame` returns. -/
def endCall (src : Source) (st : StreamState) (accepted : Nat) (last : SendData) (err : EspErr) :
    State :=
  { s with
    stream := .returned src
    calls := s.calls ++ [⟨st, s.grabbed, accepted, last, err⟩] }

/-- `camera_capture` hands out a frame in `streaming_task`. -/
def grab (staged : Bool) (fb : Fb) : State :=
  { s with
    out := Function.update s.out fb true
    frameLen := (s.mem fb).length
    grabs := s.grabs ++ [s.mem fb]
    grabbed := s.mem fb
    stream :=
      if staged = true ∧ (s.mem fb).length ≤ stagingSize then .copying fb else .calling (.fb fb) }

/-- The entry of `webrtc_stream_send_frame`. -/
def call (st : StreamState) (src : Source) : State :=
  if !st.peer || !st.chunk then s.endCall src st 0 .none .invalidState
  else if ¬ IsJpeg (s.bytes src) then s.endCall src st 0 .none .invalidSize
  else if !st.dcOpen then s.endCall src st 0 .none .invalidState
  else { s with stream := .chunks src 0 0 }

/-- The channel accepts a chunk of `n` bytes. -/
def accept (src : Source) (i off n : Nat) : State :=
  { s with
    packets := s.packets ++
      [chunk (off = 0) (n = s.frameLen - off) (((s.bytes src).drop off).take n)]
    stream := .chunks src (i + 1) (off + n) }

/-- One round of its loop. -/
def round (src : Source) (i off : Nat) (ret : SendData) : State :=
  if s.frameLen - off = 0 then s.endCall src ⟨true, true, true⟩ i .none .ok
  else
    match ret with
    | .wouldBlock => s.endCall src ⟨true, true, true⟩ i .wouldBlock .noMem
    | .error => s.endCall src ⟨true, true, true⟩ i .error .fail
    | .none => s.accept src i off (chunkSize (s.frameLen - off))

def streamStep (st : StreamState) (ret : SendData) : Option State :=
  match s.stream with
  | .capturing => none
  | .copying fb =>
    some { s with
      staging := (s.mem fb).take s.frameLen ++ s.staging.drop s.frameLen
      stream := .freeing fb }
  | .freeing fb => some { s.giveBack fb with stream := .calling .staging }
  | .calling src => some (s.call st src)
  | .chunks src i off => some (s.round src i off ret)
  | .returned .staging => some { s with stream := .capturing }
  | .returned (.fb fb) => some { s.giveBack fb with stream := .capturing }

/-- The three chunks of a part. -/
def chunkBytes (fb : Fb) : Chunk → List Byte
  | .header => partHeader (UInt32.ofNat (s.mem fb).length)
  | .jpeg => s.mem fb
  | .ending => ascii "\r\n"

/-- A chunk of the part has been sent. -/
def sentChunk (fb : Fb) (chunk : Chunk) : State :=
  let s' := { s with body := s.body ++ [s.chunkBytes fb chunk] }
  match chunk with
  | .header => { s' with http := .sending fb .jpeg }
  | .jpeg => { s' with http := .sending fb .ending }
  | .ending => { s' with http := .freeing fb true, parts := s.parts ++ [s.served] }

def httpStep (ok : Bool) : Option State :=
  match s.http with
  | .idle | .capturing => none
  | .testing => some { s with http := if s.stopping then .idle else .delaying }
  | .delaying => some { s with http := .capturing }
  | .sending fb chunk =>
    some (if ok then s.sentChunk fb chunk else { s with http := .freeing fb false })
  | .freeing fb again =>
    some { s.giveBack fb with http := if again then .capturing else .idle }

/-- `camera_capture` hands out a frame in `mjpeg_handler`. -/
def httpGrab (fb : Fb) : State :=
  { s with
    out := Function.update s.out fb true
    handed := s.handed ++ [s.mem fb]
    served := s.mem fb
    http :=
      if (partHeader (UInt32.ofNat (s.mem fb).length)).length < partBufSize then .sending fb .header
      else .freeing fb false }

end State

/-- `staged` says whether the staging buffer was allocated.  The driver hands out what is not handed
out, and fills nothing else. -/
def step (staged : Bool) (s : State) : Event → Option State
  | .fill fb frame =>
    if s.out fb then none else some { s with mem := Function.update s.mem fb frame }
  | .grab none => if s.stream = .capturing then some s else none
  | .grab (some fb) =>
    if s.stream = .capturing ∧ s.out fb = false then some (s.grab staged fb) else none
  | .stream st ret => s.streamStep st ret
  | .request =>
    if s.http = .idle then some { s with http := .capturing, body := [], handed := [], parts := [] }
    else none
  | .httpGrab none => if s.http = .capturing then some { s with http := .testing } else none
  | .httpGrab (some fb) =>
    if s.http = .capturing ∧ s.out fb = false then some (s.httpGrab fb) else none
  | .http ok => s.httpStep ok
  | .setStopping stopping => some { s with stopping := stopping }

/-- The tasks have started; the buffers hold anything. -/
def machine (staged : Bool) (mem : Fb → List Byte) : Machine State Event :=
  .ofFn { mem := mem } (step staged)

/-! ## 2. What is in whose hands, and what it holds

`Owned` is about the buffers, `Streams` and `Serves` are about one task each.  A task's own part
mentions the buffers it holds and no others, which is why it survives the other's steps. -/

def Source.held : Source → Option Fb
  | .staging => none
  | .fb w => some w

/-- The framebuffer in the hands of `streaming_task`. -/
def StreamPc.held : StreamPc → Option Fb
  | .capturing => none
  | .copying fb | .freeing fb => some fb
  | .calling src | .chunks src .. | .returned src => src.held

/-- The framebuffer in the hands of `mjpeg_handler`. -/
def HttpPc.held : HttpPc → Option Fb
  | .sending fb _ | .freeing fb _ => some fb
  | .idle | .capturing | .testing | .delaying => none

/-- The frame is in the staging buffer. -/
def StreamPc.staged : StreamPc → Bool
  | .capturing | .copying _ => false
  | .freeing _ => true
  | .calling src | .chunks src .. | .returned src => src.held.isNone

/-- The frame in hand has yet to be sent. -/
def StreamPc.unsent : StreamPc → Bool
  | .capturing | .returned _ => false
  | _ => true

/-- A buffer is in the hands of one task at most, and then it is handed out.  Each of the two tasks
sees the other's buffer as the one that is not its own. -/
structure Owned (out : Fb → Bool) (misused : Bool) (mine others : Option Fb) : Prop where
  clean : misused = false
  out_iff : ∀ fb, out fb = true ↔ mine = some fb ∨ others = some fb
  apart : ∀ fb, mine = some fb → others ≠ some fb

def State.Owned (s : State) : Prop :=
  FramePool.Owned s.out s.misused s.stream.held s.http.held

/-- What `webrtc_stream_send_frame` does at one go for a call. -/
def Call.atOnce (c : Call) : EspErr × List Packet := sendFrame c.st c.ret c.frame

def sentBy (calls : List Call) : List Packet := (calls.map fun c => c.atOnce.2).flatten

/-- The loop has come to chunk `i`, at byte `off`; the channel has accepted `cur`. -/
structure Progress (frame : List Byte) (i off : Nat) (cur : List Packet) : Prop where
  le : off ≤ frame.length
  first : off = 0 ↔ i = 0
  rest : ∀ ret : Nat → SendData, (∀ j < i, ret j = .none) →
    sendChunks ret 0 frame =
      ((sendChunks ret i (frame.drop off)).1, cur ++ (sendChunks ret i (frame.drop off)).2)

/-- `streaming_task` works on the frame as it was captured.  The packets so far are those of the
calls that have returned, and of the call that has not, those up to the chunk it has come to. -/
structure Streams (s : State) : Prop where
  results : ∀ c ∈ s.calls, c.atOnce.1 = c.err
  grabs : s.grabs = s.calls.map (·.frame) ++ if s.stream.unsent then [s.grabbed] else []
  len : s.stream ≠ .capturing → s.frameLen = s.grabbed.length
  mem : ∀ fb, s.stream.held = some fb → s.mem fb = s.grabbed
  staging : s.stream.staged = true → s.staging.take s.frameLen = s.grabbed
  packets : ∃ cur, s.packets = sentBy s.calls ++ cur ∧
    match s.stream with
    | .chunks _ i off => IsJpeg s.grabbed ∧ Progress s.grabbed i off cur
    | _ => cur = []

/-- The three chunks of a frame. -/
def part (frame : List Byte) : List (List Byte) :=
  [partHeader (UInt32.ofNat frame.length), frame, ascii "\r\n"]

/-- How many of them are sent before this one. -/
def before : Chunk → Nat
  | .header => 0
  | .jpeg => 1
  | .ending => 2

/-- The handler is between two parts. -/
def HttpPc.between : HttpPc → Bool
  | .capturing | .testing | .delaying | .freeing _ true => true
  | .idle | .sending .. | .freeing _ false => false

/-- `mjpeg_handler` works on the frame as it was captured.  Between two parts the body is whole
parts; in the middle of one it is whole parts and a beginning of the next. -/
structure Serves (s : State) : Prop where
  mem : ∀ fb, s.http.held = some fb → s.mem fb = s.served
  between : s.http.between = true →
    s.handed = s.parts ∧ s.body = (s.parts.map part).flatten
  sending : ∀ fb chunk, s.http = .sending fb chunk → s.handed = s.parts ++ [s.served] ∧
    s.body = (s.parts.map part).flatten ++ (part s.served).take (before chunk)
  cut : ∃ k, (s.handed = s.parts ∧ k = 0 ∨ s.handed = s.parts ++ [s.served]) ∧
    s.body = (s.parts.map part).flatten ++ (part s.served).take k

structure Inv (s : State) : Prop where
  owned : s.Owned
  streams : Streams s
  serves : Serves s

/-! ## 3. The loop of a call -/

section Progress

variable {frame : List Byte} {i off : Nat} {cur : List Packet}

theorem progress_start (frame : List Byte) : Progress frame 0 0 [] where
  le := Nat.zero_le _
  first := Iff.rfl
  rest ret _ := by rw [List.drop_zero, List.nil_append]

theorem Progress.next (h : Progress frame i off cur) (hlt : off < frame.length) :
    Progress frame (i + 1) (off + chunkSize (frame.length - off))
      (cur ++ [chunk (off = 0) (chunkSize (frame.length - off) = frame.length - off)
        ((frame.drop off).take (chunkSize (frame.length - off)))]) where
  le := by
    have hle := (chunkSize_le (frame.length - off)).1
    omega
  first := by
    have hpos : 0 < chunkSize (frame.length - off) := chunkSize_pos (by omega)
    omega
  rest ret hret := by
    have hne : frame.drop off ≠ [] := by simpa using hlt
    have hnow : ret i = .none := hret i (Nat.lt_succ_self i)
    have hfirst : decide (i = 0) = decide (off = 0) := decide_eq_decide.mpr h.first.symm
    rw [h.rest ret fun j hj => hret j (Nat.lt_succ_of_lt hj), sendChunks, if_neg hne]
    simp only [hnow, List.length_drop, List.drop_drop, hfirst, List.append_assoc,
      List.singleton_append]

/-- The loop ends. -/
theorem Progress.finish (h : Progress frame i off cur) (hend : frame.length - off = 0)
    {ret : Nat → SendData} (hret : ∀ j < i, ret j = .none) :
    sendChunks ret 0 frame = (.ok, cur) := by
  have hnil : frame.drop off = [] := List.drop_eq_nil_of_le (by omega)
  rw [h.rest ret hret, hnil, sendChunks, if_pos rfl, List.append_nil]

/-- The channel refuses a chunk. -/
theorem Progress.refused (h : Progress frame i off cur) (hlt : off < frame.length)
    {ret : Nat → SendData} (hret : ∀ j < i, ret j = .none) (hno : ret i ≠ .none) :
    sendChunks ret 0 frame = (if ret i = .wouldBlock then .noMem else .fail, cur) := by
  have hne : frame.drop off ≠ [] := by simpa using hlt
  rw [h.rest ret hret, sendChunks, if_neg hne]
  cases hr : ret i with
  | none => exact absurd hr hno
  | wouldBlock => simp
  | error => simp

end Progress

/-! ## 4. Every step

Every step moves one task, or the camera.  The mover's part is shown to hold again, and the other
two are carried over. -/

section Owned

variable {out : Fb → Bool} {misused : Bool} {mine others : Option Fb} {fb : Fb}

theorem Owned.symm (h : Owned out misused mine others) : Owned out misused others mine where
  clean := h.clean
  out_iff fb := (h.out_iff fb).trans or_comm
  apart fb hothers hmine := h.apart fb hmine hothers

/-- A task is handed a buffer that is not handed out. -/
theorem Owned.take (h : Owned out misused none others) (hfree : out fb = false) :
    Owned (Function.update out fb true) misused (some fb) others where
  clean := h.clean
  out_iff w := by
    by_cases hw : w = fb
    · subst hw
      simp
    · rw [Function.update_of_ne hw, h.out_iff w]
      simp [Ne.symm hw]
  apart w hw hothers := by
    obtain rfl := Option.some.inj hw
    exact absurd ((h.out_iff fb).mpr (.inr hothers)) (by simp [hfree])

/-- It gives it back. -/
theorem Owned.drop (h : Owned out misused (some fb) others) :
    Owned (Function.update out fb false) (misused || !out fb) none others where
  clean := by
    have hout := (h.out_iff fb).mpr (.inl rfl)
    rw [h.clean, hout]
    rfl
  out_iff w := by
    by_cases hw : w = fb
    · subst hw
      simpa using h.apart w rfl
    · rw [Function.update_of_ne hw, h.out_iff w]
      simp [Ne.symm hw]
  apart w hw := by cases hw

end Owned

section Step

variable {staged : Bool} {s s' : State}

/-- A call returns with what `sendFrame` returns. -/
theorem Streams.endCall (h : Streams s) {src : Source} (hunsent : s.stream.unsent = true)
    (hheld : s.stream.held = src.held) (hstaged : s.stream.staged = src.held.isNone)
    {st : StreamState} {accepted : Nat}
    {last : SendData} {err : EspErr} {cur : List Packet} (hcur : s.packets = sentBy s.calls ++ cur)
    (hcall : (⟨st, s.grabbed, accepted, last, err⟩ : Call).atOnce = (err, cur)) :
    Streams (s.endCall src st accepted last err) where
  results := by
    intro c hc
    rcases List.mem_append.mp hc with hc | hc
    · exact h.results c hc
    · rw [List.mem_singleton.mp hc, hcall]
  grabs := by
    have hgrabs := h.grabs
    rw [hunsent, if_pos rfl] at hgrabs
    simp [State.endCall, StreamPc.unsent, hgrabs]
  len _ := h.len fun hno => absurd (hno ▸ hunsent) (by decide)
  mem fb hfb := h.mem fb (hheld.trans hfb)
  staging hst := h.staging (hstaged.trans hst)
  packets := by
    refine ⟨[], ?_, rfl⟩
    simp [State.endCall, sentBy, hcall, hcur]

/-- What is sent is the frame. -/
theorem Streams.bytes_eq (h : Streams s) (src : Source) (hne : s.stream ≠ .capturing)
    (hheld : s.stream.held = src.held) (hstaged : s.stream.staged = src.held.isNone) :
    s.bytes src = s.grabbed := by
  cases src with
  | staging => exact h.staging hstaged
  | fb fb => rw [State.bytes, h.mem fb hheld, h.len hne, List.take_length]

/-- **The entry of a call.** -/
theorem Streams.call (h : Streams s) {src : Source} (hpc : s.stream = .calling src)
    (st : StreamState) : Streams (s.call st src) := by
  have hne : s.stream ≠ .capturing := by simp [hpc]
  have hunsent : s.stream.unsent = true := by simp [hpc, StreamPc.unsent]
  have hheld : s.stream.held = src.held := by rw [hpc]; rfl
  have hstaged : s.stream.staged = src.held.isNone := by rw [hpc]; rfl
  have hbytes := h.bytes_eq src hne hheld hstaged
  obtain ⟨cur, hcur, hnil⟩ := h.packets
  rw [hpc] at hnil
  subst hnil
  have hend : ∀ err, (∀ ret, sendFrame st ret s.grabbed = (err, [])) →
      Streams (s.endCall src st 0 .none err) := fun err hcall =>
    h.endCall hunsent hheld hstaged hcur (hcall _)
  unfold State.call
  rw [hbytes]
  split
  · next hno => exact hend _ fun ret => by rw [sendFrame, if_pos hno]
  · next hset =>
    split
    · next hjpeg => exact hend _ fun ret => by rw [sendFrame, if_neg hset, if_pos hjpeg]
    · next hjpeg =>
      split
      · next hopen =>
        exact hend _ fun ret => by rw [sendFrame, if_neg hset, if_neg hjpeg, if_pos hopen]
      · refine ⟨h.results, ?_, fun _ => h.len hne, fun fb hfb => h.mem fb (hheld.trans hfb),
          fun hst => h.staging (hstaged.trans hst), [], hcur, not_not.mp hjpeg, progress_start _⟩
        · have hgrabs := h.grabs
          rw [hunsent] at hgrabs
          exact hgrabs

/-- **A round of its loop.** -/
theorem Streams.round (h : Streams s) {src : Source} {i off : Nat}
    (hpc : s.stream = .chunks src i off) (ret : SendData) : Streams (s.round src i off ret) := by
  have hne : s.stream ≠ .capturing := by simp [hpc]
  have hunsent : s.stream.unsent = true := by simp [hpc, StreamPc.unsent]
  have hheld : s.stream.held = src.held := by rw [hpc]; rfl
  have hstaged : s.stream.staged = src.held.isNone := by rw [hpc]; rfl
  have hbytes := h.bytes_eq src hne hheld hstaged
  have hlen := h.len hne
  obtain ⟨cur, hcur, hprog⟩ := h.packets
  rw [hpc] at hprog
  obtain ⟨hjpeg, hprog⟩ := hprog
  have hatOnce : ∀ last err, (⟨⟨true, true, true⟩, s.grabbed, i, last, err⟩ : Call).atOnce =
      sendChunks (fun j => if j < i then .none else last) 0 s.grabbed := by
    intro last err
    have hsend : ∀ ret, sendFrame ⟨true, true, true⟩ ret s.grabbed =
        sendChunks ret 0 s.grabbed := fun ret => by simp [sendFrame, hjpeg]
    exact hsend _
  have hbefore : ∀ (last : SendData), ∀ j < i, (if j < i then .none else last) = SendData.none :=
    fun _ j hj => if_pos hj
  unfold State.round
  rw [hlen]
  split
  · next hend =>
    refine h.endCall hunsent hheld hstaged hcur ?_
    rw [hatOnce, hprog.finish hend (hbefore _)]
  · next hleft =>
    have hlt : off < s.grabbed.length := by omega
    have hrefused : ∀ last : SendData, last ≠ .none →
        (⟨⟨true, true, true⟩, s.grabbed, i, last,
          if last = .wouldBlock then .noMem else .fail⟩ : Call).atOnce =
        (if last = .wouldBlock then .noMem else .fail, cur) := by
      intro last hlast
      have hi : (if i < i then SendData.none else last) = last := if_neg (Nat.lt_irrefl i)
      have hr := hprog.refused hlt (hbefore last) (by rw [hi]; exact hlast)
      rw [hi] at hr
      rw [hatOnce, hr]
    cases ret with
    | wouldBlock =>
      exact h.endCall hunsent hheld hstaged hcur (hrefused .wouldBlock (by decide))
    | error => exact h.endCall hunsent hheld hstaged hcur (hrefused .error (by decide))
    | none =>
      refine ⟨h.results, ?_, fun _ => hlen, fun fb hfb => h.mem fb (hheld.trans hfb),
        fun hst => h.staging (hstaged.trans hst), _, ?_, hjpeg, hprog.next hlt⟩
      · have hgrabs := h.grabs
        rw [hunsent] at hgrabs
        exact hgrabs
      · simp only [State.accept, hbytes, hlen, hcur, List.append_assoc]

theorem Streams.giveBack (h : Streams s) (fb : Fb) : Streams (s.giveBack fb) :=
  ⟨h.results, h.grabs, h.len, h.mem, h.staging, h.packets⟩

/-- The round is over. -/
theorem Streams.again (h : Streams s) {src : Source} (hpc : s.stream = .returned src) :
    Streams { s with stream := .capturing } := by
  have hgrabs := h.grabs
  obtain ⟨cur, hcur, hnil⟩ := h.packets
  rw [hpc] at hgrabs hnil
  exact ⟨h.results, hgrabs, fun hno => absurd rfl hno, fun w hw => (by cases hw),
    fun hst => (by cases hst), cur, hcur, hnil⟩

/-- A frame is captured. -/
theorem Streams.grab (h : Streams s) (hpc : s.stream = .capturing) (staged : Bool) (fb : Fb) :
    Streams (s.grab staged fb) := by
  have hgrabs := h.grabs
  obtain ⟨cur, hcur, hnil⟩ := h.packets
  rw [hpc] at hgrabs hnil
  have hgrabs' : s.grabs = s.calls.map (·.frame) := by simpa [StreamPc.unsent] using hgrabs
  by_cases hfits : staged = true ∧ (s.mem fb).length ≤ stagingSize
  · have hs : (s.grab staged fb).stream = .copying fb := if_pos hfits
    refine ⟨h.results, ?_, fun _ => rfl, fun w hw => ?_, fun hst => ?_, cur, hcur, ?_⟩
    · rw [hs]
      simp [State.grab, StreamPc.unsent, hgrabs']
    · rw [hs] at hw
      rw [← Option.some.inj hw]
      rfl
    · rw [hs] at hst
      cases hst
    · rw [hs]
      exact hnil
  · have hs : (s.grab staged fb).stream = .calling (.fb fb) := if_neg hfits
    refine ⟨h.results, ?_, fun _ => rfl, fun w hw => ?_, fun hst => ?_, cur, hcur, ?_⟩
    · rw [hs]
      simp [State.grab, StreamPc.unsent, hgrabs']
    · rw [hs] at hw
      rw [← Option.some.inj hw]
      rfl
    · rw [hs] at hst
      cases hst
    · rw [hs]
      exact hnil

/-- The frame is staged. -/
theorem Streams.copied (h : Streams s) {fb : Fb} (hpc : s.stream = .copying fb) :
    Streams { s with
      staging := (s.mem fb).take s.frameLen ++ s.staging.drop s.frameLen
      stream := .freeing fb } := by
  have hmem := h.mem fb (by rw [hpc]; rfl)
  have hlen := h.len (by simp [hpc])
  have hgrabs := h.grabs
  obtain ⟨cur, hcur, hnil⟩ := h.packets
  rw [hpc] at hgrabs hnil
  refine ⟨h.results, hgrabs, fun _ => hlen, fun w hw => ?_, fun _ => ?_, cur, hcur, hnil⟩
  · exact h.mem w (by rw [hpc]; exact hw)
  · simp [hlen, hmem]

/-- The framebuffer is free again. -/
theorem Streams.freed (h : Streams s) {fb : Fb} (hpc : s.stream = .freeing fb) :
    Streams { s with stream := .calling .staging } := by
  have hgrabs := h.grabs
  obtain ⟨cur, hcur, hnil⟩ := h.packets
  rw [hpc] at hgrabs hnil
  exact ⟨h.results, hgrabs, fun _ => h.len (by simp [hpc]), fun w hw => (by cases hw),
    fun _ => h.staging (by rw [hpc]; rfl), cur, hcur, hnil⟩

/-- What is not `webrtc_stream_send_frame`'s. -/
structure Kept (s s' : State) : Prop where
  mem : s'.mem = s.mem
  out : s'.out = s.out
  misused : s'.misused = s.misused
  http : s'.http = s.http
  body : s'.body = s.body
  served : s'.served = s.served
  handed : s'.handed = s.handed
  parts : s'.parts = s.parts

theorem kept_call (s : State) (st : StreamState) (src : Source) :
    Kept s (s.call st src) ∧ (s.call st src).stream.held = src.held := by
  unfold State.call
  split
  · exact ⟨⟨rfl, rfl, rfl, rfl, rfl, rfl, rfl, rfl⟩, rfl⟩
  · split
    · exact ⟨⟨rfl, rfl, rfl, rfl, rfl, rfl, rfl, rfl⟩, rfl⟩
    · split
      · exact ⟨⟨rfl, rfl, rfl, rfl, rfl, rfl, rfl, rfl⟩, rfl⟩
      · exact ⟨⟨rfl, rfl, rfl, rfl, rfl, rfl, rfl, rfl⟩, rfl⟩

theorem kept_round (s : State) (src : Source) (i off : Nat) (ret : SendData) :
    Kept s (s.round src i off ret) ∧ (s.round src i off ret).stream.held = src.held := by
  unfold State.round
  split
  · exact ⟨⟨rfl, rfl, rfl, rfl, rfl, rfl, rfl, rfl⟩, rfl⟩
  · cases ret with
    | none => exact ⟨⟨rfl, rfl, rfl, rfl, rfl, rfl, rfl, rfl⟩, rfl⟩
    | wouldBlock => exact ⟨⟨rfl, rfl, rfl, rfl, rfl, rfl, rfl, rfl⟩, rfl⟩
    | error => exact ⟨⟨rfl, rfl, rfl, rfl, rfl, rfl, rfl, rfl⟩, rfl⟩

/-- The handler does not see it. -/
theorem Serves.keep (h : Serves s) (hkept : Kept s s') : Serves s' where
  mem fb hfb := by
    rw [hkept.mem, hkept.served]
    exact h.mem fb (hkept.http ▸ hfb)
  between hbetween := by
    rw [hkept.body, hkept.handed, hkept.parts]
    exact h.between (hkept.http ▸ hbetween)
  sending fb chunk hpc := by
    rw [hkept.body, hkept.handed, hkept.parts, hkept.served]
    exact h.sending fb chunk (hkept.http ▸ hpc)
  cut := by
    rw [hkept.body, hkept.handed, hkept.parts, hkept.served]
    exact h.cut

theorem State.Owned.keep (h : s.Owned) (hkept : Kept s s')
    (hheld : s'.stream.held = s.stream.held) : s'.Owned := by
  unfold State.Owned
  rw [hkept.out, hkept.misused, hkept.http, hheld]
  exact h

/-- **A step of `streaming_task`.** -/
theorem Inv.streamStep (h : Inv s) {st : StreamState} {ret : SendData}
    (hs : s.streamStep st ret = some s') : Inv s' := by
  obtain ⟨howned, hstreams, hserves⟩ := id h
  unfold State.streamStep at hs
  unfold State.Owned at howned
  split at hs
  · cases hs
  · next fb hpc =>
    cases hs
    rw [hpc] at howned
    exact ⟨howned, hstreams.copied hpc, hserves.mem, hserves.between, hserves.sending, hserves.cut⟩
  · next fb hpc =>
    cases hs
    rw [hpc] at howned
    exact ⟨howned.drop, (hstreams.giveBack fb).freed hpc, hserves.mem, hserves.between,
      hserves.sending, hserves.cut⟩
  · next src hpc =>
    cases hs
    obtain ⟨hkept, hheld⟩ := kept_call s st src
    exact ⟨h.owned.keep hkept (by rw [hheld, hpc]; rfl), hstreams.call hpc st, hserves.keep hkept⟩
  · next src i off hpc =>
    cases hs
    obtain ⟨hkept, hheld⟩ := kept_round s src i off ret
    exact ⟨h.owned.keep hkept (by rw [hheld, hpc]; rfl), hstreams.round hpc ret,
      hserves.keep hkept⟩
  · next hpc =>
    cases hs
    rw [hpc] at howned
    exact ⟨howned, hstreams.again hpc, hserves.mem, hserves.between, hserves.sending, hserves.cut⟩
  · next fb hpc =>
    cases hs
    rw [hpc] at howned
    exact ⟨howned.drop, (hstreams.giveBack fb).again hpc, hserves.mem, hserves.between,
      hserves.sending, hserves.cut⟩

/-- A chunk of a part reaches the client. -/
theorem Serves.sentChunk (h : Serves s) {fb : Fb} {chunk : Chunk}
    (hpc : s.http = .sending fb chunk) : Serves (s.sentChunk fb chunk) := by
  have hmem := h.mem fb (by rw [hpc]; rfl)
  obtain ⟨hhanded, hbody⟩ := h.sending fb chunk hpc
  cases chunk with
  | header =>
    have hsent : s.body ++ [s.chunkBytes fb .header] =
        (s.parts.map part).flatten ++ (part s.served).take 1 := by
      simp [hbody, State.chunkBytes, part, hmem, before]
    refine ⟨fun w hw => h.mem w (by rw [hpc]; exact hw), fun hno => (by cases hno),
      fun w c hw => ?_, 1, .inr hhanded, hsent⟩
    cases hw
    exact ⟨hhanded, hsent⟩
  | jpeg =>
    have hsent : s.body ++ [s.chunkBytes fb .jpeg] =
        (s.parts.map part).flatten ++ (part s.served).take 2 := by
      simp [hbody, State.chunkBytes, part, hmem, before]
    refine ⟨fun w hw => h.mem w (by rw [hpc]; exact hw), fun hno => (by cases hno),
      fun w c hw => ?_, 2, .inr hhanded, hsent⟩
    cases hw
    exact ⟨hhanded, hsent⟩
  | ending =>
    have hsent : s.body ++ [s.chunkBytes fb .ending] =
        ((s.parts ++ [s.served]).map part).flatten := by
      simp [hbody, State.chunkBytes, part, before]
    exact ⟨fun w hw => h.mem w (by rw [hpc]; exact hw), fun _ => ⟨hhanded, hsent⟩,
      fun w c hw => (by cases hw), 0, .inl ⟨hhanded, rfl⟩, hsent.trans (List.append_nil _).symm⟩

/-- A frame is captured in the handler. -/
theorem Serves.httpGrab (h : Serves s) (hpc : s.http = .capturing) (fb : Fb) :
    Serves (s.httpGrab fb) := by
  have hs : (s.httpGrab fb).http = .sending fb .header :=
    if_pos (Firmware.LanStream.partHeader_fits _)
  obtain ⟨hhanded, hbody⟩ := h.between (by rw [hpc]; rfl)
  have hhanded' : s.handed ++ [s.mem fb] = s.parts ++ [s.mem fb] := by rw [hhanded]
  have hbody' : s.body = (s.parts.map part).flatten ++ (part (s.mem fb)).take 0 := by simp [hbody]
  refine ⟨fun w hw => ?_, fun hno => ?_, fun w c hw => ?_, 0, .inr hhanded', hbody'⟩
  · rw [hs] at hw
    rw [← Option.some.inj hw]
    rfl
  · rw [hs] at hno
    cases hno
  · rw [hs] at hw
    cases hw
    exact ⟨hhanded', hbody'⟩

/-- The handler leaves `streaming_task` alone. -/
theorem Streams.sentChunk (h : Streams s) (fb : Fb) (chunk : Chunk) :
    Streams (s.sentChunk fb chunk) := by
  cases chunk with
  | header => exact ⟨h.results, h.grabs, h.len, h.mem, h.staging, h.packets⟩
  | jpeg => exact ⟨h.results, h.grabs, h.len, h.mem, h.staging, h.packets⟩
  | ending => exact ⟨h.results, h.grabs, h.len, h.mem, h.staging, h.packets⟩

theorem State.Owned.sentChunk (h : s.Owned) {fb : Fb} {chunk : Chunk}
    (hpc : s.http = .sending fb chunk) : (s.sentChunk fb chunk).Owned := by
  unfold State.Owned at h
  rw [hpc] at h
  cases chunk with
  | header => exact h
  | jpeg => exact h
  | ending => exact h

/-- The response is cut, or over. -/
theorem Serves.stop (h : Serves s) {http : HttpPc} (hbetween : http.between = false)
    (hsending : ∀ fb chunk, http ≠ .sending fb chunk)
    (hheld : ∀ fb, http.held = some fb → s.http.held = some fb) : Serves { s with http := http } :=
  ⟨fun fb hfb => h.mem fb (hheld fb hfb), fun hyes => absurd (hbetween.symm.trans hyes) (by decide),
    fun fb chunk hpc => absurd hpc (hsending fb chunk), h.cut⟩

/-- It goes on with another frame. -/
theorem Serves.goOn (h : Serves s) (hbetween : s.http.between = true) {http : HttpPc}
    (hsending : ∀ fb chunk, http ≠ .sending fb chunk) (hheld : http.held = none) :
    Serves { s with http := http } :=
  ⟨fun fb hfb => absurd (hheld.symm.trans hfb) (by simp), fun _ => h.between hbetween,
    fun fb chunk hpc => absurd hpc (hsending fb chunk), h.cut⟩

theorem Streams.setHttp (h : Streams s) (http : HttpPc) : Streams { s with http := http } :=
  ⟨h.results, h.grabs, h.len, h.mem, h.staging, h.packets⟩

/-- **A step of the handler.** -/
theorem Inv.httpStep (h : Inv s) {ok : Bool} (hs : s.httpStep ok = some s') : Inv s' := by
  obtain ⟨howned, hstreams, hserves⟩ := id h
  unfold State.httpStep at hs
  unfold State.Owned at howned
  split at hs
  · cases hs
  · cases hs
  · next hpc =>
    cases hs
    rw [hpc] at howned
    by_cases hstop : s.stopping = true
    · rw [if_pos hstop]
      exact ⟨howned, hstreams.setHttp _, hserves.stop rfl (by simp) fun w hw => (by cases hw)⟩
    · rw [if_neg hstop]
      exact ⟨howned, hstreams.setHttp _,
        hserves.goOn (by rw [hpc]; rfl) (by simp) rfl⟩
  · next hpc =>
    cases hs
    rw [hpc] at howned
    exact ⟨howned, hstreams.setHttp _, hserves.goOn (by rw [hpc]; rfl) (by simp) rfl⟩
  · next fb chunk hpc =>
    cases hs
    rw [hpc] at howned
    cases ok with
    | true =>
      exact ⟨h.owned.sentChunk hpc, hstreams.sentChunk fb chunk, hserves.sentChunk hpc⟩
    | false =>
      exact ⟨howned, hstreams.setHttp _,
        hserves.stop rfl (by simp) fun w hw => by rw [hpc]; exact hw⟩
  · next fb again hpc =>
    cases hs
    rw [hpc] at howned
    have hback : Serves (s.giveBack fb) :=
      ⟨hserves.mem, hserves.between, hserves.sending, hserves.cut⟩
    cases again with
    | true =>
      refine ⟨howned.symm.drop.symm, (hstreams.giveBack fb).setHttp _, hback.goOn ?_ (by simp) rfl⟩
      show s.http.between = true
      rw [hpc]
      rfl
    | false =>
      exact ⟨howned.symm.drop.symm, (hstreams.giveBack fb).setHttp _,
        hback.stop rfl (by simp) fun w hw => (by cases hw)⟩

/-- The camera fills a buffer that is in nobody's hands. -/
theorem Inv.fill (h : Inv s) {fb : Fb} (hfree : s.out fb = false) (frame : List Byte) :
    Inv { s with mem := Function.update s.mem fb frame } := by
  obtain ⟨howned, hstreams, hserves⟩ := id h
  have hother : ∀ w, s.stream.held = some w ∨ s.http.held = some w → w ≠ fb := by
    rintro w hw rfl
    rw [(h.owned.out_iff w).mpr hw] at hfree
    cases hfree
  refine ⟨howned, ⟨hstreams.results, hstreams.grabs, hstreams.len, fun w hw => ?_,
    hstreams.staging, hstreams.packets⟩, fun w hw => ?_, hserves.between, hserves.sending,
    hserves.cut⟩
  · exact (Function.update_of_ne (hother w (.inl hw)) _ _).trans (hstreams.mem w hw)
  · exact (Function.update_of_ne (hother w (.inr hw)) _ _).trans (hserves.mem w hw)

/-- **Every step.** -/
theorem Inv.step (h : Inv s) {e : Event} (hs : step staged s e = some s') : Inv s' := by
  obtain ⟨howned, hstreams, hserves⟩ := id h
  cases e with
  | fill fb frame =>
    simp only [FramePool.step] at hs
    split at hs
    · cases hs
    · next hfree =>
      cases hs
      exact h.fill (by simpa using hfree) frame
  | grab fb =>
    cases fb with
    | none =>
      simp only [FramePool.step] at hs
      split at hs
      · cases hs
        exact h
      · cases hs
    | some fb =>
      simp only [FramePool.step] at hs
      split at hs
      · next hcan =>
        cases hs
        obtain ⟨hpc, hfree⟩ := hcan
        unfold State.Owned at howned
        rw [hpc] at howned
        have hheld : (s.grab staged fb).stream.held = some fb := by
          unfold State.grab
          split <;> rfl
        refine ⟨?_, hstreams.grab hpc staged fb, hserves.mem, hserves.between, hserves.sending,
          hserves.cut⟩
        unfold State.Owned
        rw [hheld]
        exact howned.take hfree
      · cases hs
  | stream st ret => exact h.streamStep hs
  | request =>
    simp only [FramePool.step] at hs
    split at hs
    · next hpc =>
      cases hs
      unfold State.Owned at howned
      rw [hpc] at howned
      exact ⟨howned, ⟨hstreams.results, hstreams.grabs, hstreams.len, hstreams.mem,
        hstreams.staging, hstreams.packets⟩, fun w hw => (by cases hw), fun _ => ⟨rfl, rfl⟩,
        fun w c hw => (by cases hw), 0, .inl ⟨rfl, rfl⟩, rfl⟩
    · cases hs
  | httpGrab fb =>
    cases fb with
    | none =>
      simp only [FramePool.step] at hs
      split at hs
      · next hpc =>
        cases hs
        unfold State.Owned at howned
        rw [hpc] at howned
        exact ⟨howned, hstreams.setHttp _,
          hserves.goOn (by rw [hpc]; rfl) (by simp) rfl⟩
      · cases hs
    | some fb =>
      simp only [FramePool.step] at hs
      split at hs
      · next hcan =>
        cases hs
        obtain ⟨hpc, hfree⟩ := hcan
        unfold State.Owned at howned
        rw [hpc] at howned
        have hheld : (s.httpGrab fb).http.held = some fb := by
          unfold State.httpGrab
          split <;> rfl
        refine ⟨?_, ⟨hstreams.results, hstreams.grabs, hstreams.len, hstreams.mem,
          hstreams.staging, hstreams.packets⟩, hserves.httpGrab hpc fb⟩
        unfold State.Owned
        rw [hheld]
        exact (howned.symm.take hfree).symm
      · cases hs
  | http ok => exact h.httpStep hs
  | setStopping stopping =>
    cases hs
    exact ⟨howned, ⟨hstreams.results, hstreams.grabs, hstreams.len, hstreams.mem,
      hstreams.staging, hstreams.packets⟩, hserves.mem, hserves.between, hserves.sending,
      hserves.cut⟩

end Step

/-! ## 5. Every run -/

section Run

variable {staged : Bool} {mem : Fb → List Byte} {s : State}

theorem inv_init (mem : Fb → List Byte) : Inv { mem := mem } where
  owned := ⟨rfl, fun fb => (by simp [StreamPc.held, HttpPc.held]), fun fb hfb => (by cases hfb)⟩
  streams := ⟨fun c hc => (by cases hc), rfl, fun hno => absurd rfl hno,
    fun fb hfb => (by cases hfb), fun hst => (by cases hst), [], rfl, rfl⟩
  serves := ⟨fun fb hfb => (by cases hfb), fun hno => (by cases hno),
    fun fb chunk hpc => (by cases hpc), 0, .inl ⟨rfl, rfl⟩, rfl⟩

theorem inv_reachable (h : (machine staged mem).Reachable s) : Inv s := by
  refine h.induct ?_ fun s e s' _ hinv hs => hinv.step hs
  rintro s rfl
  exact inv_init mem

/-- What the page draws of the calls: the frames of those that returned `ESP_OK`. -/
theorem receive_sentBy (r : Receiver) {calls : List Call} (hret : ∀ c ∈ calls, c.atOnce.1 = c.err) :
    (r.receive (sentBy calls)).2 = (calls.filter fun c => c.err = .ok).map (·.frame) := by
  induction calls generalizing r with
  | nil => rfl
  | cons c calls ih =>
    have hdrawn : (r.receive c.atOnce.2).2 = if c.err = .ok then [c.frame] else [] := by
      rw [← hret c List.mem_cons_self]
      exact receive_result r ⟨c.st, c.ret, c.frame⟩
    have hsplit : sentBy (c :: calls) = c.atOnce.2 ++ sentBy calls := by simp [sentBy]
    rw [hsplit, receive_append, hdrawn, ih _ fun d hd => hret d (List.mem_cons_of_mem c hd)]
    by_cases hok : c.err = .ok
    · simp [hok]
    · simp [hok]

/-- **Frames stay whole.**  However the two tasks and the camera interleave, a framebuffer is in the
hands of one task, which gives it back once.  Whenever `streaming_task` is not in the middle of a
frame it has called `webrtc_stream_send_frame` once for each frame it was handed, and the page draws
the frames, as they were captured, of the calls that returned `ESP_OK`.  A response is made of the
parts of the frames that the handler was handed, as they were captured, cut at most in the last. -/
theorem frames_intact (h : (machine staged mem).Reachable s) :
    (s.misused = false ∧
      (∀ fb, s.out fb = true ↔ s.stream.held = some fb ∨ s.http.held = some fb) ∧
      ∀ fb, s.stream.held = some fb → s.http.held ≠ some fb) ∧
    (s.stream.unsent = false → s.calls.map (·.frame) = s.grabs ∧ ∀ r : Receiver,
      (r.receive s.packets).2 = (s.calls.filter fun c => c.err = .ok).map (·.frame)) ∧
    (s.handed.dropLast.map part).flatten <+: s.body ∧ s.body <+: (s.handed.map part).flatten := by
  obtain ⟨howned, hstreams, hserves⟩ := inv_reachable h
  refine ⟨⟨howned.clean, howned.out_iff, howned.apart⟩, fun hsent => ?_, ?_⟩
  · have hgrabs := hstreams.grabs
    rw [hsent] at hgrabs
    obtain ⟨cur, hcur, hnil⟩ := hstreams.packets
    have hnone : cur = [] := by
      cases hpc : s.stream with
      | chunks src i off =>
        rw [hpc] at hsent
        cases hsent
      | _ =>
        rw [hpc] at hnil
        exact hnil
    refine ⟨by simpa using hgrabs.symm, fun r => ?_⟩
    rw [hcur, hnone, List.append_nil, receive_sentBy r hstreams.results]
  · obtain ⟨k, ⟨hhanded, rfl⟩ | hhanded, hbody⟩ := hserves.cut
    · rw [List.take_zero, List.append_nil, ← hhanded] at hbody
      rw [hbody]
      exact ⟨(List.dropLast_prefix _).map part |>.flatten, List.prefix_refl _⟩
    · rw [hhanded, List.dropLast_concat, hbody, List.map_append, List.flatten_append]
      refine ⟨List.prefix_append _ _, ?_⟩
      rw [List.prefix_append_right_inj]
      simpa using List.take_prefix k (part s.served)

/-- The handler is handed the buffer of a frame that is still being sent, with another one in it. -/
def refilled : List Event :=
  [.fill 0 (blankJpeg 0), .request, .grab (some 0), .stream ⟨true, true, true⟩ .none,
    .stream ⟨true, true, true⟩ .none, .fill 0 (blankJpeg 1), .stream ⟨true, true, true⟩ .none,
    .httpGrab (some 0), .stream ⟨true, true, true⟩ .none, .http true, .http true,
    .stream ⟨true, true, true⟩ .none]

/-- Both are intact. -/
theorem frames_intact_refilled :
    ∃ s, (machine true fun _ => []).Reachable s ∧ s.grabs = [blankJpeg 0] ∧
      (Receiver.init.receive s.packets).2 = [blankJpeg 0] ∧ s.handed = [blankJpeg 1] ∧
      s.body <+: part (blankJpeg 1) := by
  have hex : (Machine.exec (step true) { mem := fun _ => [] } refilled).any (fun s => decide
      (s.stream.unsent = false ∧ s.grabs = [blankJpeg 0] ∧ s.handed = [blankJpeg 1] ∧
        (s.calls.filter fun c => c.err = .ok).map (·.frame) = [blankJpeg 0])) = true := by
    decide +kernel
  obtain ⟨s, hrun, h⟩ := Machine.exists_run_of_any hex
  obtain ⟨hsent, hgrabs, hhanded, hok⟩ := of_decide_eq_true h
  obtain ⟨-, hdrawn, -, hbody⟩ := frames_intact ⟨_, hrun⟩
  refine ⟨s, ⟨_, hrun⟩, hgrabs, ((hdrawn hsent).2 _).trans hok, hhanded, ?_⟩
  rw [hhanded] at hbody
  simpa using hbody

end Run

end FramePool

end Surveillance
