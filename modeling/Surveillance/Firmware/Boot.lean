/-
# The device from power-up to streaming

`esp32-firmware/main/app_main.c`.  `app_main` loads the stored config and enters one of two modes:
the portal, which only a reboot leaves, or normal mode, which joins the network, brings the camera
up, retries `webrtc_stream_init` until it succeeds and then streams.  Power can go at any moment;
RAM is then lost and NVS is not.

`Device` is that machine over any number of boots.  Two fields are history, which no function reads:
the configs the portal has passed to the store, and the one its last success page was about.
`runs_saved` is what a user may rely on: the device never runs anything but the stored config, that
is one somebody submitted, and once the success page was shown it is that one.  `stream_held` is the
same runs for the handles of `webrtc_stream.c`.

What makes it work is that there is one source of configs.  Normal mode is entered with what
`config_store_load` returned and nothing else, the portal writes through `config_store_save` and
nothing else, and the soundness of the store says that the two agree; the rest is an invariant over
boots (`Inv`).

A submission whose save fails may have reached the flash all the same.  Then the page
shows the form again, and the next boot runs the new config: one that somebody submitted, so the
guarantee stands, but not the one that was confirmed last.
-/
import Surveillance.Firmware.Portal
import Surveillance.Firmware.StreamInit
import Surveillance.Lib.Machine

namespace Surveillance

namespace Firmware

/-! ## 1. The machine

A boot is one step for what `app_main` does on its own, and one for each thing that can happen
afterwards. -/

/-- Where `app_main` is. -/
inductive Phase where
  /-- Without power, or before the mode is chosen. -/
  | off
  /-- `enter_portal_mode`, and whether its access point and its server came up. -/
  | portal (ap server : Bool)
  /-- `save_handler`, between the success page and `esp_restart`. -/
  | restarting
  /-- `run_normal_mode`, at `wifi_start_sta`. -/
  | joining (cfg : DeviceConfig)
  /-- At `camera_init`. -/
  | camera (cfg : DeviceConfig)
  /-- At `webrtc_stream_init`. -/
  | streamInit (cfg : DeviceConfig)
  /-- With the streaming task created. -/
  | streaming (cfg : DeviceConfig)
  deriving DecidableEq

/-- The config that normal mode runs with. -/
def Phase.config : Phase → Option DeviceConfig
  | .joining cfg | .camera cfg | .streamInit cfg | .streaming cfg => some cfg
  | .off | .portal _ _ | .restarting => none

structure Device where
  nvs : Nvs
  phase : Phase
  stream : Stream
  /-- What the portal has passed to the store so far. -/
  submitted : List DeviceConfig
  /-- What the last success page was about, until another submission or the erasure of NVS. -/
  confirmed : Option DeviceConfig

/-- What `config_store_save` keeps of a config. -/
def DeviceConfig.stored (cfg : DeviceConfig) : DeviceConfig := { cfg with reserved := zeros _ }

/-- Whether `wifi_start_ap` and `web_portal_start` succeed. -/
structure PortalStart where
  ap : Bool
  server : Bool

/-- One pass through `app_main`: whether NVS has to be erased, whether every `ESP_ERROR_CHECK`
passes, and how the config is read. -/
structure BootRun where
  eraseNvs : Bool
  checks : Bool
  faults : NvsFaults
  beyond : List Byte
  /-- What is in `cfg` before it is loaded. -/
  cfg : DeviceConfig

inductive BootEvent where
  /-- The power goes, or the chip restarts. -/
  | reset
  | boot (run : BootRun) (start : PortalStart)
  /-- `wifi_start_sta` returns, successfully or not. -/
  | staDone (ok : Bool) (start : PortalStart)
  | cameraInit (ok : Bool)
  | streamInit (calls : InitCalls)
  /-- A `POST /save` reaches the portal. -/
  | save (req : SaveRequest) (faults : NvsFaults) (beyond : List Byte)

namespace Device

/-- Fresh from the factory. -/
def blank : Device := ⟨⟨false, none⟩, .off, .boot, [], none⟩

def enterPortalMode (d : Device) (start : PortalStart) : Device :=
  { d with phase := .portal start.ap start.server }

/-- `nvs_flash_init`, and the erasure that it may call for. -/
def initNvs (d : Device) (erase : Bool) : Device :=
  if erase then { d with nvs := ⟨false, none⟩, confirmed := none } else d

/-- `app_main`.  A failed `ESP_ERROR_CHECK` restarts the chip. -/
def appMain (d : Device) (run : BootRun) (start : PortalStart) : Device :=
  let d := d.initNvs run.eraseNvs
  if !run.checks then d
  else
    let loaded := configStoreLoad d.nvs run.faults run.beyond run.cfg
    if loaded.1 ≠ .ok then d.enterPortalMode start else { d with phase := .joining loaded.2 }

/-- `save_handler`: the page confirms what it is about; a submission whose save fails may have
reached the flash. -/
def save (d : Device) (req : SaveRequest) (faults : NvsFaults) (beyond : List Byte) : Device :=
  let run := saveHandler req d.nvs faults beyond
  { d with
    nvs := run.nvs
    phase := if run.reply = .success then .restarting else d.phase
    submitted := d.submitted ++ run.stored.toList
    confirmed :=
      match run.stored with
      | none => d.confirmed
      | some cfg => if run.reply = .success then some cfg.stored else none }

def step (d : Device) : BootEvent → Option Device
  | .reset => some { d with phase := .off, stream := .boot }
  | .boot run start => if d.phase = .off then some (d.appMain run start) else none
  | .staDone ok start =>
    match d.phase with
    | .joining cfg => some (if ok then { d with phase := .camera cfg } else d.enterPortalMode start)
    | _ => none
  | .cameraInit ok =>
    match d.phase with
    | .camera cfg => some (if ok then { d with phase := .streamInit cfg } else d)
    | _ => none
  | .streamInit calls =>
    match d.phase with
    | .streamInit cfg =>
      let tried := d.stream.webrtcStreamInit cfg.backendHost.val calls
      some { d with
        stream := tried.2
        phase := if tried.1 = .ok then .streaming cfg else d.phase }
    | _ => none
  | .save req faults beyond =>
    if d.phase = .portal true true then some (d.save req faults beyond) else none

def machine : Machine Device BootEvent := .ofFn .blank step

end Device

/-! ## 2. What the store does to a device

NVS is changed by a submission and by an erasure, and by nothing else. -/

theorem ConfigBlob.bytes_injective : Function.Injective ConfigBlob.bytes := by
  intro a b hab
  calc a = ofBytes a.bytes a.length_bytes := (ofBytes_bytes a).symm
    _ = ofBytes b.bytes b.length_bytes := by simp only [hab]
    _ = b := ofBytes_bytes b

/-- NVS holds one config at most. -/
theorem Nvs.Holds.unique {nvs : Nvs} {cfg cfg' : DeviceConfig} (h : nvs.Holds cfg)
    (h' : nvs.Holds cfg') : cfg = cfg' := by
  have hbytes := ConfigBlob.bytes_injective (Option.some.inj (h.symm.trans h'))
  injection hbytes

theorem FieldRules.stored {cfg : DeviceConfig} (h : FieldRules cfg) : FieldRules cfg.stored :=
  ⟨h.ssidEnds, h.ssid, h.passwordEnds, h.hostEnds, h.host, h.tokenEnds, h.token⟩

/-- A request that passes nothing on shows no success page. -/
theorem stored_of_success {req : SaveRequest} {nvs : Nvs} {faults : NvsFaults} {beyond : List Byte}
    (h : (saveHandler req nvs faults beyond).reply = .success) :
    (saveHandler req nvs faults beyond).stored ≠ none := by
  intro hnone
  unfold saveHandler at h hnone
  by_cases hlen : req.contentLen > maxFormBody
  · rw [if_pos hlen] at h
    cases h
  rw [if_neg hlen] at h hnone
  cases hbody : recvBody req.contentLen req.recvs [] with
  | none =>
    rw [hbody] at h
    cases h
  | some body =>
    rw [hbody] at h hnone
    dsimp only at h hnone
    by_cases hvalid : configValidate (parseForm body .defaults) beyond ≠ .ok
    · rw [if_pos hvalid] at h
      cases h
    · rw [if_neg hvalid] at hnone
      cases hnone

/-- What one submission can do to NVS: nothing without passing a config on; with one, nothing or
its write; and with the success page, its write. -/
inductive Submission (nvs : Nvs) (run : SaveRun) : Prop
  | rejected (hreply : run.reply ≠ .success) (hstored : run.stored = none) (hnvs : run.nvs = nvs)
  | failed (cfg : DeviceConfig) (hreply : run.reply ≠ .success) (hstored : run.stored = some cfg)
      (hnvs : run.nvs.blob = nvs.blob ∨ run.nvs.Holds cfg.stored)
  | saved (cfg : DeviceConfig) (hreply : run.reply = .success) (hstored : run.stored = some cfg)
      (hcreated : run.nvs.created = true) (hnvs : run.nvs.Holds cfg.stored)
      (hrules : FieldRules cfg.stored)

theorem submission (req : SaveRequest) (nvs : Nvs) (faults : NvsFaults) (beyond : List Byte) :
    Submission nvs (saveHandler req nvs faults beyond) := by
  rcases saveHandler_cases req nvs faults beyond with
    ⟨hnone, hnvs⟩ | ⟨-, hsome, hnvs, hok⟩
  · exact .rejected (fun h => stored_of_success h hnone) hnone hnvs
  rcases configStoreSave_cases nvs faults beyond (parseForm req.body .defaults) with
    ⟨err, herr, heq⟩ | ⟨hrules, err, nvs', heq, hcase⟩
  · rw [heq] at hnvs hok
    exact .failed _ (fun h => herr (hok h)) hsome (Or.inl (congrArg Nvs.blob hnvs))
  · rw [heq] at hnvs hok
    rcases hcase with ⟨herr, hsame⟩ | ⟨hcreated, hholds⟩
    · exact .failed _ (fun h => herr (hok h)) hsome
        (Or.inl ((congrArg Nvs.blob hnvs).trans hsame))
    · by_cases hreply : (saveHandler req nvs faults beyond).reply = .success
      · exact .saved _ hreply hsome (hnvs ▸ hcreated) (hnvs ▸ hholds) hrules.stored
      · exact .failed _ hreply hsome (Or.inr (hnvs ▸ hholds))

/-! ## 3. The invariant

The invariant relates what runs, what is stored, what was submitted and what was confirmed. -/

namespace Device

/-- The blob in NVS is one that was submitted; what runs is what is stored; what was confirmed is
stored; and only a confirmation leads out of the portal. -/
structure Inv (d : Device) : Prop where
  blob : ∀ blob, d.nvs.blob = some blob →
    ∃ cfg ∈ d.submitted, blob = ConfigBlob.bytes ⟨storeMagic, storeVersion, cfg.stored⟩
  running : ∀ cfg, d.phase.config = some cfg → d.nvs.Holds cfg ∧ FieldRules cfg
  confirmed : ∀ cfg, d.confirmed = some cfg →
    d.nvs.created = true ∧ d.nvs.Holds cfg ∧ FieldRules cfg
  restarting : d.phase = .restarting → d.confirmed.isSome

/-- What is stored was submitted. -/
theorem Inv.submitted {d : Device} (hi : d.Inv) {cfg : DeviceConfig} (h : d.nvs.Holds cfg) :
    ∃ form ∈ d.submitted, cfg = form.stored := by
  obtain ⟨form, hmem, hblob⟩ := hi.blob _ h
  have hform : d.nvs.Holds form.stored := h.trans (congrArg some hblob)
  exact ⟨form, hmem, h.unique hform⟩

/-- A step that leaves NVS and the history alone. -/
theorem Inv.same_store {d d' : Device} (hi : d.Inv) (hnvs : d'.nvs = d.nvs)
    (hsubmitted : d'.submitted = d.submitted) (hconfirmed : d'.confirmed = d.confirmed)
    (hrunning : ∀ cfg, d'.phase.config = some cfg → d.nvs.Holds cfg ∧ FieldRules cfg)
    (hrestarting : d'.phase ≠ .restarting) : d'.Inv where
  blob := by
    rw [hnvs, hsubmitted]
    exact hi.blob
  running := by
    rw [hnvs]
    exact hrunning
  confirmed := by
    rw [hnvs, hconfirmed]
    exact hi.confirmed
  restarting h := absurd h hrestarting

/-- Initialising NVS changes neither where the device is nor what it holds. -/
theorem initNvs_frame (d : Device) (erase : Bool) :
    (d.initNvs erase).phase = d.phase ∧ (d.initNvs erase).stream = d.stream := by
  cases erase <;> exact ⟨rfl, rfl⟩

theorem Inv.initNvs {d : Device} (hi : d.Inv) (hoff : d.phase = .off) (erase : Bool) :
    (d.initNvs erase).Inv := by
  cases erase with
  | false => exact hi
  | true =>
    refine ⟨by simp [Device.initNvs], ?_, by simp [Device.initNvs], ?_⟩
    · simp [Device.initNvs, hoff, Phase.config]
    · simp [Device.initNvs, hoff]

theorem Inv.appMain {d : Device} (hi : d.Inv) (hoff : d.phase = .off) (run : BootRun)
    (start : PortalStart) : (d.appMain run start).Inv := by
  have hi' := hi.initNvs hoff run.eraseNvs
  unfold Device.appMain
  dsimp only
  split
  · exact hi'
  · rcases configStoreLoad_cases (d.initNvs run.eraseNvs).nvs run.faults run.beyond run.cfg with
      ⟨err, herr, heq⟩ | ⟨cfg, hholds, hrules, heq⟩
    · rw [heq, if_pos herr]
      exact hi'.same_store rfl rfl rfl (by simp [enterPortalMode, Phase.config])
        (by simp [enterPortalMode])
    · rw [heq, if_neg (by simp)]
      refine hi'.same_store rfl rfl rfl ?_ (by simp)
      intro c hc
      obtain rfl := Option.some.inj hc
      exact ⟨hholds, hrules⟩

theorem Inv.save {d : Device} (hi : d.Inv) (hportal : d.phase = .portal true true)
    (req : SaveRequest) (faults : NvsFaults) (beyond : List Byte) :
    (d.save req faults beyond).Inv := by
  have hidle : ∀ cfg, d.phase.config ≠ some cfg := by simp [hportal, Phase.config]
  have hsubmission := submission req d.nvs faults beyond
  unfold Device.save
  generalize saveHandler req d.nvs faults beyond = run at hsubmission ⊢
  obtain ⟨reply, stored, nvs⟩ := run
  cases hsubmission with
  | rejected hreply hstored hnvs =>
    obtain rfl : stored = none := hstored
    obtain rfl : nvs = d.nvs := hnvs
    simp only [if_neg hreply, Option.toList_none, List.append_nil]
    exact hi
  | failed cfg hreply hstored hnvs =>
    obtain rfl : stored = some cfg := hstored
    simp only [if_neg hreply, Option.toList_some]
    refine ⟨?_, fun c hc => absurd hc (hidle c), by simp, by simp [hportal]⟩
    intro blob hblob
    rcases hnvs with hsame | hholds
    · obtain ⟨form, hmem, heq⟩ := hi.blob blob (hsame ▸ hblob)
      exact ⟨form, List.mem_append_left _ hmem, heq⟩
    · exact ⟨cfg, by simp, Option.some.inj (hblob.symm.trans hholds)⟩
  | saved cfg hreply hstored hcreated hnvs hrules =>
    obtain rfl : stored = some cfg := hstored
    simp only [if_pos hreply, Option.toList_some]
    refine ⟨?_, by simp [Phase.config], ?_, by simp⟩
    · intro blob hblob
      exact ⟨cfg, by simp, Option.some.inj (hblob.symm.trans hnvs)⟩
    · intro c hc
      obtain rfl := Option.some.inj hc
      exact ⟨hcreated, hnvs, hrules⟩

theorem inv_step {d d' : Device} {e : BootEvent} (hi : d.Inv) (hs : step d e = some d') :
    d'.Inv := by
  cases e with
  | reset =>
    obtain rfl := Option.some.inj hs
    exact hi.same_store rfl rfl rfl (by simp [Phase.config]) (by simp)
  | boot run start =>
    simp only [step] at hs
    split at hs
    · rename_i hoff
      obtain rfl := Option.some.inj hs
      exact hi.appMain hoff run start
    · cases hs
  | staDone ok start =>
    simp only [step] at hs
    split at hs
    · rename_i cfg hphase
      have hrun := hi.running cfg (by rw [hphase]; rfl)
      obtain rfl := Option.some.inj hs
      cases ok
      · exact hi.same_store rfl rfl rfl (by simp [enterPortalMode, Phase.config])
          (by simp [enterPortalMode])
      · exact hi.same_store rfl rfl rfl (fun c hc => Option.some.inj hc ▸ hrun) (by simp)
    · cases hs
  | cameraInit ok =>
    simp only [step] at hs
    split at hs
    · rename_i cfg hphase
      have hrun := hi.running cfg (by rw [hphase]; rfl)
      obtain rfl := Option.some.inj hs
      cases ok
      · exact hi
      · exact hi.same_store rfl rfl rfl (fun c hc => Option.some.inj hc ▸ hrun) (by simp)
    · cases hs
  | streamInit calls =>
    simp only [step] at hs
    split at hs
    · rename_i cfg hphase
      have hrun := hi.running cfg (by rw [hphase]; rfl)
      obtain rfl := Option.some.inj hs
      refine hi.same_store rfl rfl rfl (fun c hc => ?_) ?_
      · dsimp only at hc
        split at hc
        · exact Option.some.inj hc ▸ hrun
        · exact hi.running c hc
      · dsimp only
        split
        · simp
        · simp [hphase]
    · cases hs
  | save req faults beyond =>
    simp only [step] at hs
    split at hs
    · rename_i hportal
      obtain rfl := Option.some.inj hs
      exact hi.save hportal req faults beyond
    · cases hs

theorem reachable_inv {d : Device} (hr : machine.Reachable d) : d.Inv := by
  refine hr.induct (P := Inv) ?_ fun _ _ _ _ hi hs => inv_step hi hs
  rintro d rfl
  exact ⟨by simp [blank], by simp [blank, Phase.config], by simp [blank], by simp [blank]⟩

/-! ## 4. What a user may rely on

The guarantee is read off the invariant, with one clean boot added. -/

/-- A boot at which nothing goes wrong before the mode is chosen. -/
structure CleanBoot (run : BootRun) : Prop where
  eraseNvs : run.eraseNvs = false
  checks : run.checks = true
  onOpen : run.faults.onOpen = none
  onGet : run.faults.onGet = none

/-- What runs is what is stored, and somebody submitted it; if the success page has been shown
since, it is what that page was about, and the next clean boot joins with it. -/
structure RunsSaved (d : Device) : Prop where
  stored : ∀ cfg, d.phase.config = some cfg →
    d.nvs.Holds cfg ∧ FieldRules cfg ∧ ∃ form ∈ d.submitted, cfg = form.stored
  latest : ∀ cfg saved, d.phase.config = some cfg → d.confirmed = some saved → cfg = saved
  restarts : d.phase = .restarting → d.confirmed.isSome
  joins : ∀ saved, d.confirmed = some saved → d.phase = .off → ∀ run start, CleanBoot run →
    step d (.boot run start) = some { d with phase := .joining saved }

/-- A boot at which nothing goes wrong. -/
def clean : BootRun := ⟨false, true, {}, [], .defaults⟩

/-- A submission on a blank device, a network that cannot be joined, and its return. -/
def firstDay : List BootEvent :=
  [.boot clean ⟨true, true⟩,
   .save (post (ascii "ssid=yard&pass=&host=10.0.0.2&token=s3cret")) {} [], .reset,
   .boot clean ⟨true, true⟩, .staDone false ⟨true, true⟩, .reset, .boot clean ⟨true, true⟩,
   .staDone true ⟨true, true⟩]

/-- One of each handle while streaming, and none otherwise. -/
def HoldsExactly (d : Device) : Prop :=
  match d.phase with
  | .streaming cfg => Stream.Ready cfg.backendHost.val d.stream
  | _ => Stream.Idle d.stream

/-- Not streaming. -/
def Before (p : Phase) : Prop := ∀ cfg, p ≠ .streaming cfg

theorem holdsExactly_before {d : Device} (h : Before d.phase) :
    d.HoldsExactly ↔ Stream.Idle d.stream := by
  unfold HoldsExactly
  split
  · rename_i cfg hphase
    exact absurd hphase (h cfg)
  · rfl

theorem appMain_before {d : Device} (hoff : d.phase = .off) (run : BootRun) (start : PortalStart) :
    Before (d.appMain run start).phase ∧ (d.appMain run start).stream = d.stream := by
  obtain ⟨hphase, hstream⟩ := initNvs_frame d run.eraseNvs
  unfold appMain
  dsimp only
  split
  · exact ⟨by simp [Before, hphase, hoff], hstream⟩
  · split
    · exact ⟨by simp [Before, enterPortalMode], hstream⟩
    · exact ⟨by simp [Before], hstream⟩

theorem holdsExactly_step {d d' : Device} {e : BootEvent} (hd : d.HoldsExactly)
    (hs : step d e = some d') : d'.HoldsExactly := by
  have hidle : ∀ {p : Phase}, d.phase = p → Before p → Stream.Idle d.stream :=
    fun hp hbefore => (holdsExactly_before (hp ▸ hbefore)).mp hd
  cases e with
  | reset =>
    obtain rfl := Option.some.inj hs
    exact Stream.idle_boot
  | boot run start =>
    simp only [step] at hs
    split at hs
    · rename_i hoff
      obtain rfl := Option.some.inj hs
      obtain ⟨hbefore, hstream⟩ := appMain_before hoff run start
      rw [holdsExactly_before hbefore, hstream]
      exact hidle hoff (by simp [Before])
    · cases hs
  | staDone ok start =>
    simp only [step] at hs
    split at hs
    · rename_i cfg hphase
      obtain rfl := Option.some.inj hs
      have hnone := hidle hphase (by simp [Before])
      cases ok <;> exact hnone
    · cases hs
  | cameraInit ok =>
    simp only [step] at hs
    split at hs
    · rename_i cfg hphase
      obtain rfl := Option.some.inj hs
      have hnone := hidle hphase (by simp [Before])
      cases ok
      · exact hd
      · exact hnone
    · cases hs
  | streamInit calls =>
    simp only [step] at hs
    split at hs
    · rename_i cfg hphase
      obtain rfl := Option.some.inj hs
      have hnone := hidle hphase (by simp [Before])
      rcases Stream.attempted_webrtcStreamInit hnone cfg.backendHost.val calls with
        ⟨hfail, hafter⟩ | ⟨hok, hready⟩
      · rw [holdsExactly_before]
        · exact hafter
        · rw [if_neg (by simp [hfail])]
          simp [Before, hphase]
      · simpa only [HoldsExactly, hok, if_true] using hready
    · cases hs
  | save req faults beyond =>
    simp only [step] at hs
    split at hs
    · rename_i hportal
      obtain rfl := Option.some.inj hs
      refine (holdsExactly_before ?_).mpr (hidle hportal (by simp [Before]))
      unfold Device.save
      dsimp only
      split
      · simp [Before]
      · simp [Before, hportal]
    · cases hs

/-- Every call succeeds. -/
def allSucceed : InitCalls := ⟨true, true, true, true, true, true, true, true, true, true⟩

/-- The first attempts fail at the WebSocket, at the start of the client and at the task. -/
def thirdRetry : List BootEvent :=
  firstDay ++ [.cameraInit true, .streamInit { allSucceed with wsInit := false },
    .streamInit { allSucceed with clientStart := false },
    .streamInit { allSucceed with taskCreate := false }, .streamInit allSucceed]

end Device

end Firmware

end Surveillance
