/-
# The ICE table of an offer

`build_ice_servers` of `esp32-firmware/main/webrtc_stream.c` fills a table of four entries from the
`stun` and `turn` of an offer: up to three STUN URLs and one TURN URL with its credentials.  The
values come from cJSON; what finds a member of an object is a parameter.

`offered` says what the table should be: every usable STUN URL up to the third, and TURN if one of
its URLs is usable and the credentials fit, whole.  `build_ice_servers_iff` is the exact condition.
The code stops at a STUN element that is no string, settles on a TURN URL before it looks whether
it can be used, and cuts credentials that are too long.

Each of the three is an order of doing things.  The loop over `stun` ends at the first element that
is no string, instead of passing it over; the loop over `urls` picks before `copy_ice_url` has
looked at what was picked; and the credentials are cut by `strlcpy`, where a URL that is too long
is refused.  `StunOk` and `TurnOk` are what it takes for the order not to matter.

An offer that asks for nothing is met by an empty table, which is no error: the camera then has its
own address to offer and no other.
-/
import Mathlib.Data.List.Basic
import Surveillance.Lib.CString

namespace Surveillance

namespace Firmware

/-! ## 1. Values of cJSON

A `char *` is the bytes before its NUL, so a value cannot be read past its end. -/

/-- What a `char *` points at: the bytes before the NUL. -/
abbrev CStr := { s : List Byte // 0 ∉ s }

/-- A `cJSON` value; the value of a number is not read here. -/
inductive CJson where
  | null
  | bool (b : Bool)
  | number
  | str (valuestring : CStr)
  | arr (items : List CJson)
  | obj (members : List (CStr × CJson))

namespace CJson

/-- `valuestring` where `cJSON_IsString`. -/
def str? : CJson → Option CStr
  | .str s => some s
  | _ => none

end CJson

/-- `valuestring` of an item that may be missing. -/
def stringItem (item : Option CJson) : Option CStr := item.bind CJson.str?

/-- `cJSON_GetObjectItem`, on the members of an object. -/
abbrev GetObjectItem := List (CStr × CJson) → List Byte → Option CJson

theorem strlen_val (s : CStr) : strlen s.val = s.val.length := by
  rw [strlen, cstr_of_notMem s.property]

/-! ## 2. The table

The loops return the entries they fill, which is the front of the table. -/

def maxIceServers : Nat := 4
def iceUrlMax : Nat := 127
def iceCredMax : Nat := 128

/-- `esp_peer_ice_server_cfg_t`, with the strings its pointers lead to. -/
structure IceServer where
  stunUrl : List Byte
  user : Option (List Byte)
  psw : Option (List Byte)
  deriving DecidableEq

/-- `copy_ice_url`; `none` is a refusal. -/
def copyIceUrl (src : CStr) : Option (List Byte) :=
  if strlen src.val = 0 ∨ strlen src.val > iceUrlMax then none else some src.val

/-- The loop over `stun`. -/
def stunLoop : List CJson → List IceServer → List IceServer
  | [], table => table
  | item :: items, table =>
    if table.length ≥ maxIceServers - 1 then table
    else
      match item with
      | .str s =>
        match copyIceUrl s with
        | some url => stunLoop items (table ++ [⟨url, none, none⟩])
        | none => stunLoop items table
      | _ => table

/-- `strstr(url, "transport=udp") != NULL`. -/
def isUdp (url : CStr) : Bool := (strstr (ascii "transport=udp") url.val).isSome

theorem isUdp_iff {url : CStr} : isUdp url = true ↔ ascii "transport=udp" <:+: url.val :=
  strstr_isSome_iff

/-- The loop over `urls`. -/
def pickLoop : List CJson → Option CStr → Option CStr
  | [], picked => picked
  | .str url :: urls, picked =>
    let picked := if picked = none ∨ isUdp url = true then some url else picked
    if isUdp url then picked else pickLoop urls picked
  | _ :: urls, picked => pickLoop urls picked

/-- The `turn` part. -/
def addTurn (getObjectItem : GetObjectItem) (turn : Option CJson) (table : List IceServer) :
    List IceServer :=
  match turn with
  | some (.obj members) =>
    match getObjectItem members (ascii "urls") with
    | some (.arr urls) =>
      if urls.length > 0 then
        match pickLoop urls none, stringItem (getObjectItem members (ascii "username")),
          stringItem (getObjectItem members (ascii "credential")) with
        | some picked, some user, some psw =>
          if table.length < maxIceServers then
            match copyIceUrl picked with
            | some url =>
              table ++ [⟨url, some (snprintf (iceCredMax + 1) user.val),
                some (snprintf (iceCredMax + 1) psw.val)⟩]
            | none => table
          else table
        | _, _, _ => table
      else table
    | _ => table
  | _ => table

/-- The elements of an array, and none of anything else. -/
def elements : Option CJson → List CJson
  | some (.arr items) => items
  | _ => []

/-- `build_ice_servers`: the first `n` entries of the table. -/
def buildIceServers (getObjectItem : GetObjectItem) (stun turn : Option CJson) : List IceServer :=
  addTurn getObjectItem turn (stunLoop (elements stun) [])

/-! ## 3. What the offer says

The specification looks at the lists as a whole: what is usable in them, and which of it is best. -/

/-- From 1 to 127 bytes. -/
def usable (url : CStr) : Bool := 1 ≤ url.val.length && url.val.length ≤ iceUrlMax

def strings (items : List CJson) : List CStr := items.filterMap CJson.str?

def usableUrls (items : List CJson) : List CStr := (strings items).filter usable

/-- The first URL over UDP, else the first URL. -/
def preferred (urls : List CStr) : Option CStr := (urls.find? isUdp).or urls.head?

def member (getObjectItem : GetObjectItem) (turn : Option CJson) (key : String) : Option CJson :=
  match turn with
  | some (.obj members) => getObjectItem members (ascii key)
  | _ => none

def stunServer (url : CStr) : IceServer := ⟨url.val, none, none⟩

/-- Both credentials, when they are strings. -/
def credentials (getObjectItem : GetObjectItem) (turn : Option CJson) : Option (CStr × CStr) :=
  (stringItem (member getObjectItem turn "username")).bind fun user =>
    (stringItem (member getObjectItem turn "credential")).map fun psw => (user, psw)

/-- They fit their buffers. -/
def CredsFit (creds : CStr × CStr) : Prop :=
  creds.1.val.length ≤ iceCredMax ∧ creds.2.val.length ≤ iceCredMax

instance (creds : CStr × CStr) : Decidable (CredsFit creds) := inferInstanceAs (Decidable (_ ∧ _))

def turnUrls (getObjectItem : GetObjectItem) (turn : Option CJson) : List CJson :=
  elements (member getObjectItem turn "urls")

/-- The TURN entry of an offer: its best usable URL, with the credentials as they are. -/
def turnOffered (getObjectItem : GetObjectItem) (turn : Option CJson) : Option IceServer :=
  (credentials getObjectItem turn).bind fun creds =>
    if CredsFit creds then
      (preferred (usableUrls (turnUrls getObjectItem turn))).map fun url =>
        ⟨url.val, some creds.1.val, some creds.2.val⟩
    else none

/-- The table that an offer asks for. -/
def offered (getObjectItem : GetObjectItem) (stun turn : Option CJson) : List IceServer :=
  ((usableUrls (elements stun)).take 3).map stunServer ++ (turnOffered getObjectItem turn).toList

/-! ## 4. What the loops find

Each loop is shown to be a function of the list, without its counters. -/

theorem copyIceUrl_eq (src : CStr) :
    copyIceUrl src = if usable src then some src.val else none := by
  have hiff : (strlen src.val = 0 ∨ strlen src.val > iceUrlMax) ↔ ¬usable src = true := by
    rw [strlen_val, usable, Bool.and_eq_true, decide_eq_true_eq, decide_eq_true_eq]
    omega
  rw [copyIceUrl]
  by_cases h : usable src = true
  · rw [if_pos h, if_neg (not_not.mpr h ∘ hiff.mp)]
  · rw [if_neg h, if_pos (hiff.mpr h)]

def isString (item : CJson) : Bool := item.str?.isSome

/-- **The STUN loop**: the usable strings before the first element that is none, while there is
room for TURN. -/
theorem stunLoop_eq (items : List CJson) (table : List IceServer) :
    stunLoop items table = table ++
      ((usableUrls (items.takeWhile isString)).take (3 - table.length)).map stunServer := by
  induction items generalizing table with
  | nil => simp [stunLoop, usableUrls, strings]
  | cons item items ih =>
    unfold stunLoop
    split
    · rename_i hfull
      have hroom : 3 - table.length = 0 := Nat.sub_eq_zero_of_le hfull
      rw [hroom, List.take_zero, List.map_nil, List.append_nil]
    · rename_i hfree
      have hroom : 3 - table.length = 3 - (table.length + 1) + 1 := by
        have hlt : table.length < 3 := Nat.not_le.mp hfree
        omega
      cases item with
      | str s =>
        have htake : (CJson.str s :: items).takeWhile isString =
            .str s :: items.takeWhile isString := List.takeWhile_cons_of_pos rfl
        have hcons : strings (.str s :: items.takeWhile isString) =
            s :: strings (items.takeWhile isString) := rfl
        rw [htake, usableUrls, hcons]
        dsimp only
        rw [copyIceUrl_eq]
        by_cases hs : usable s = true
        · rw [if_pos hs, List.filter_cons_of_pos hs, hroom, List.take_succ_cons, List.map_cons]
          dsimp only
          rw [ih, List.length_append, List.length_singleton, List.append_assoc]
          rfl
        · rw [if_neg hs, List.filter_cons_of_neg hs]
          dsimp only
          rw [ih]
          rfl
      | _ => simp [isString, CJson.str?, usableUrls, strings]

/-- **The URL loop** settles on the preferred string. -/
theorem pickLoop_eq (urls : List CJson) (picked : Option CStr) :
    pickLoop urls picked = ((strings urls).find? isUdp).or (picked.or (strings urls).head?) := by
  induction urls generalizing picked with
  | nil => simp [pickLoop, strings]
  | cons item urls ih =>
    cases item with
    | str url =>
      have hcons : strings (.str url :: urls) = url :: strings urls := rfl
      rw [hcons, List.find?_cons, List.head?_cons]
      unfold pickLoop
      dsimp only
      by_cases hudp : isUdp url = true
      · rw [if_pos (Or.inr hudp), if_pos hudp, hudp]
        rfl
      · rw [if_neg hudp, ih, Bool.eq_false_iff.mpr hudp]
        cases picked <;> simp
    | _ =>
      unfold pickLoop
      rw [ih]
      rfl

/-- What `build_ice_servers` makes of `turn`. -/
def turnBuilt (getObjectItem : GetObjectItem) (turn : Option CJson) : Option IceServer :=
  (credentials getObjectItem turn).bind fun creds =>
    ((preferred (strings (turnUrls getObjectItem turn))).filter usable).map fun url =>
      ⟨url.val, some (snprintf (iceCredMax + 1) creds.1.val),
        some (snprintf (iceCredMax + 1) creds.2.val)⟩

theorem pickLoop_none (urls : List CJson) : pickLoop urls none = preferred (strings urls) := by
  rw [pickLoop_eq, Option.none_or, preferred]

/-- The `turn` part adds that entry to a table with room for it. -/
theorem addTurn_eq (getObjectItem : GetObjectItem) (turn : Option CJson) {table : List IceServer}
    (hroom : table.length < maxIceServers) :
    addTurn getObjectItem turn table = table ++ (turnBuilt getObjectItem turn).toList := by
  have hnil : table = table ++ (none : Option IceServer).toList := (List.append_nil _).symm
  rcases turn with _ | (_ | _ | _ | _ | _ | members)
  case some.obj =>
    unfold addTurn turnBuilt credentials turnUrls member
    dsimp only
    generalize stringItem (getObjectItem members (ascii "username")) = user
    generalize stringItem (getObjectItem members (ascii "credential")) = psw
    -- Without URLs there is nothing to pick.
    have hempty : ∀ urls, strings urls = [] → table = table ++
        ((user.bind fun user => psw.map fun psw => (user, psw)).bind fun creds =>
          ((preferred (strings urls)).filter usable).map fun url => (⟨url.val,
            some (snprintf (iceCredMax + 1) creds.1.val),
            some (snprintf (iceCredMax + 1) creds.2.val)⟩ : IceServer)).toList := by
      intro urls hurls
      rw [hurls]
      cases user <;> cases psw <;> exact hnil
    rcases getObjectItem members (ascii "urls") with _ | (_ | _ | _ | _ | urls | _)
    case some.arr =>
      dsimp only [elements]
      rw [pickLoop_none]
      by_cases hlen : urls.length > 0
      · rw [if_pos hlen]
        cases hpick : preferred (strings urls) with
        | none => cases user <;> cases psw <;> exact hnil
        | some picked =>
          cases user with
          | none => exact hnil
          | some user =>
            cases psw with
            | none => exact hnil
            | some psw =>
              dsimp only
              rw [if_pos hroom, copyIceUrl_eq]
              by_cases hu : usable picked = true
              · simp [hu, Option.filter]
              · simp [hu, Option.filter]
      · rw [if_neg hlen]
        have hurls : urls = [] := List.length_eq_zero_iff.mp (Nat.eq_zero_of_not_pos hlen)
        exact hempty urls (by rw [hurls]; rfl)
    all_goals exact hempty [] rfl
  all_goals exact hnil

/-! ## 5. When the table is that of the offer

The two parts of the table can be told apart, since a TURN entry has a user and a STUN entry has
none; so the tables agree exactly when the parts do. -/

/-- No usable STUN URL stands behind an element that is no string, or three stand before it.  Three
is what the table takes, so what the loop would have found behind them is lost in any case. -/
def StunOk (stun : Option CJson) : Prop :=
  ∀ pre bad post, elements stun = pre ++ bad :: post → isString bad = false →
    3 ≤ (usableUrls pre).length ∨ usableUrls post = []

/-- With credentials that fit, the preferred URL is usable or none is; with longer ones, it is not
usable.  Without credentials, or without a URL, there is nothing to get wrong. -/
def TurnOk (getObjectItem : GetObjectItem) (turn : Option CJson) : Prop :=
  ∀ creds, credentials getObjectItem turn = some creds →
    ∀ url, preferred (strings (turnUrls getObjectItem turn)) = some url →
      if CredsFit creds then
        usable url = true ∨ usableUrls (turnUrls getObjectItem turn) = []
      else usable url = false

theorem usableUrls_append (a b : List CJson) :
    usableUrls (a ++ b) = usableUrls a ++ usableUrls b := by
  rw [usableUrls, strings, List.filterMap_append, List.filter_append]
  rfl

theorem take_eq_take_append_iff {α : Type} {n : Nat} {a b : List α} :
    a.take n = (a ++ b).take n ↔ n ≤ a.length ∨ b = [] := by
  rw [List.take_append, List.self_eq_append_right, List.take_eq_nil_iff, Nat.sub_eq_zero_iff_le]

theorem usableUrls_cons_of_not_string {bad : CJson} (h : isString bad = false)
    (items : List CJson) : usableUrls (bad :: items) = usableUrls items := by
  have hnone : bad.str? = none := by simpa [isString] using h
  rw [usableUrls, strings, List.filterMap_cons_none hnone]
  rfl

/-- **The STUN part is that of the offer exactly when** `StunOk` holds. -/
theorem stun_eq_iff (stun : Option CJson) :
    stunLoop (elements stun) [] = ((usableUrls (elements stun)).take 3).map stunServer ↔
      StunOk stun := by
  have hsplit : (elements stun).takeWhile isString ++ (elements stun).dropWhile isString =
      elements stun := List.takeWhile_append_dropWhile
  have hinj : Function.Injective stunServer := by
    intro a b h
    exact Subtype.ext (IceServer.mk.inj h).1
  have hiff : stunLoop (elements stun) [] = ((usableUrls (elements stun)).take 3).map stunServer ↔
      3 ≤ (usableUrls ((elements stun).takeWhile isString)).length ∨
        usableUrls ((elements stun).dropWhile isString) = [] := by
    rw [stunLoop_eq, List.nil_append, List.length_nil, Nat.sub_zero,
      (List.map_injective_iff.mpr hinj).eq_iff, ← take_eq_take_append_iff, ← usableUrls_append,
      hsplit]
  rw [hiff]
  constructor
  · intro h pre bad post heq hbad
    -- The first element that is no string stands in front of `post`.
    have hpre : (elements stun).takeWhile isString <+: pre := by
      rw [heq, List.takeWhile_append]
      split
      · simp [hbad]
      · exact List.takeWhile_prefix _
    obtain ⟨mid, hmid⟩ := hpre
    have hdrop : (elements stun).dropWhile isString = mid ++ bad :: post := by
      rw [← hmid, List.append_assoc] at heq
      exact List.append_cancel_left (hsplit.trans heq)
    rw [hdrop, usableUrls_append, List.append_eq_nil_iff,
      usableUrls_cons_of_not_string hbad] at h
    refine h.imp (fun hfront => ?_) And.right
    rw [← hmid, usableUrls_append, List.length_append]
    exact Nat.le_add_right_of_le hfront
  · intro h
    cases hdrop : (elements stun).dropWhile isString with
    | nil => exact Or.inr rfl
    | cons bad post =>
      have hbad : isString bad = false := by
        have hhead := List.head_dropWhile_not isString (l := elements stun) (by simp [hdrop])
        simpa [hdrop] using hhead
      rw [usableUrls_cons_of_not_string hbad]
      refine h _ bad post ?_ hbad
      rw [← hdrop, hsplit]

theorem preferred_eq_none_iff {urls : List CStr} : preferred urls = none ↔ urls = [] := by
  rw [preferred, Option.or_eq_none_iff, List.head?_eq_none_iff]
  refine ⟨And.right, ?_⟩
  rintro rfl
  exact ⟨rfl, rfl⟩

/-- A preferred URL that is usable is preferred among the usable ones. -/
theorem preferred_filter {urls : List CStr} {url : CStr} (h : preferred urls = some url)
    (hu : usable url = true) : preferred (urls.filter usable) = some url := by
  cases hfind : urls.find? isUdp with
  | some p =>
    obtain rfl : p = url := by simpa [preferred, hfind] using h
    obtain ⟨hudp, before, after, rfl, hbefore⟩ := List.find?_eq_some_iff_append.mp hfind
    have hnone : (before.filter usable).find? isUdp = none := by
      rw [List.find?_eq_none]
      intro x hx
      simpa using hbefore x (List.mem_of_mem_filter hx)
    rw [preferred, List.filter_append, List.filter_cons_of_pos hu, List.find?_append, hnone,
      Option.none_or, List.find?_cons_of_pos hudp, Option.some_or]
  | none =>
    have hhead : urls.head? = some url := by simpa [preferred, hfind] using h
    obtain ⟨rest, rfl⟩ := List.head?_eq_some_iff.mp hhead
    have hnone : ((url :: rest).filter usable).find? isUdp = none := by
      rw [List.find?_eq_none] at hfind ⊢
      exact fun x hx => hfind x (List.mem_of_mem_filter hx)
    rw [preferred, hnone, Option.none_or, List.filter_cons_of_pos hu, List.head?_cons]

/-- Looking at usability after the choice, instead of before it. -/
theorem filter_preferred_iff (urls : List CStr) :
    (preferred urls).filter usable = preferred (urls.filter usable) ↔
      ∀ url, preferred urls = some url → usable url = true ∨ urls.filter usable = [] := by
  cases hpick : preferred urls with
  | none =>
    rw [preferred_eq_none_iff] at hpick
    subst hpick
    exact iff_of_true rfl (by simp)
  | some p =>
    by_cases hu : usable p = true
    · rw [preferred_filter hpick hu]
      exact iff_of_true (by simp [hu]) fun url h => Or.inl (Option.some.inj h ▸ hu)
    · have hnone : (some p).filter usable = none := by simp [hu]
      rw [hnone, eq_comm, preferred_eq_none_iff]
      constructor
      · exact fun hnil url _ => Or.inr hnil
      · exact fun h => (h p rfl).resolve_left hu

/-- **The TURN entry is that of the offer exactly when** `TurnOk` holds. -/
theorem turn_eq_iff (getObjectItem : GetObjectItem) (turn : Option CJson) :
    turnBuilt getObjectItem turn = turnOffered getObjectItem turn ↔ TurnOk getObjectItem turn := by
  unfold TurnOk
  rw [turnBuilt, turnOffered]
  cases credentials getObjectItem turn with
  | none => exact iff_of_true rfl (by simp)
  | some creds =>
    simp only [Option.bind_some, Option.some.injEq, forall_eq']
    by_cases hfit : CredsFit creds
    · have huser : snprintf (iceCredMax + 1) creds.1.val = creds.1.val :=
        (snprintf_eq_iff (Nat.succ_pos _)).mpr (Nat.lt_succ_of_le hfit.1)
      have hpsw : snprintf (iceCredMax + 1) creds.2.val = creds.2.val :=
        (snprintf_eq_iff (Nat.succ_pos _)).mpr (Nat.lt_succ_of_le hfit.2)
      have hinj : Function.Injective fun url : CStr =>
          (⟨url.val, some creds.1.val, some creds.2.val⟩ : IceServer) := by
        intro a b h
        exact Subtype.ext (IceServer.mk.inj h).1
      simp only [if_pos hfit, huser, hpsw]
      rw [(Option.map_injective hinj).eq_iff]
      exact filter_preferred_iff _
    · simp only [if_neg hfit]
      rw [Option.map_eq_none_iff, Option.filter_eq_none_iff]
      simp

theorem buildIceServers_eq (getObjectItem : GetObjectItem) (stun turn : Option CJson) :
    (stunLoop (elements stun) []).length ≤ 3 ∧
      buildIceServers getObjectItem stun turn =
        stunLoop (elements stun) [] ++ (turnBuilt getObjectItem turn).toList := by
  have hlen : (stunLoop (elements stun) []).length ≤ 3 := by
    rw [stunLoop_eq, List.nil_append, List.length_map]
    exact List.length_take_le _ _
  exact ⟨hlen, addTurn_eq getObjectItem turn (Nat.lt_succ_of_le hlen)⟩

theorem user_stun {e : IceServer} {urls : List CStr} (h : e ∈ urls.map stunServer) :
    e.user = none := by
  obtain ⟨url, -, rfl⟩ := List.mem_map.mp h
  rfl

/-- The entries without a user, and then at most one with: each part can be told from the table. -/
theorem append_toList_inj {a b : List IceServer} {x y : Option IceServer}
    (ha : ∀ e ∈ a, e.user = none) (hb : ∀ e ∈ b, e.user = none)
    (hx : ∀ e ∈ x, e.user.isSome = true) (hy : ∀ e ∈ y, e.user.isSome = true) :
    a ++ x.toList = b ++ y.toList ↔ a = b ∧ x = y := by
  have hfront : ∀ {l : List IceServer} {o : Option IceServer}, (∀ e ∈ l, e.user = none) →
      (∀ e ∈ o, e.user.isSome = true) → (l ++ o.toList).filter (·.user.isNone) = l := by
    intro l o hl ho
    have hself : l.filter (·.user.isNone) = l :=
      List.filter_eq_self.mpr fun e he => by rw [hl e he]; rfl
    have hnil : o.toList.filter (·.user.isNone) = [] := by
      rw [List.filter_eq_nil_iff]
      intro e he
      have hsome := ho e (Option.mem_toList.mp he)
      simpa [Option.isSome_iff_ne_none] using hsome
    rw [List.filter_append, hself, hnil, List.append_nil]
  constructor
  · intro h
    have hab : a = b := by
      rw [← hfront ha hx, h, hfront hb hy]
    subst hab
    have htail := congrArg List.head? (List.append_cancel_left h)
    rw [Option.head?_toList, Option.head?_toList] at htail
    exact ⟨rfl, htail⟩
  · rintro ⟨rfl, rfl⟩
    rfl

theorem user_turnBuilt (getObjectItem : GetObjectItem) (turn : Option CJson) :
    ∀ e ∈ turnBuilt getObjectItem turn, e.user.isSome = true := by
  intro e he
  obtain ⟨creds, -, hmap⟩ := Option.bind_eq_some_iff.mp he
  obtain ⟨url, -, rfl⟩ := Option.map_eq_some_iff.mp hmap
  rfl

theorem user_turnOffered (getObjectItem : GetObjectItem) (turn : Option CJson) :
    ∀ e ∈ turnOffered getObjectItem turn, e.user.isSome = true := by
  intro e he
  obtain ⟨creds, -, hite⟩ := Option.bind_eq_some_iff.mp he
  split at hite
  · obtain ⟨url, -, rfl⟩ := Option.map_eq_some_iff.mp hite
    rfl
  · cases hite

/-- **The table is that of the offer exactly when** no usable STUN URL is behind an element that
ends the loop, and the TURN URL that is preferred is one that can be used, with credentials that
fit.  With credentials that do not fit the offer asks for no TURN at all, and then the table must
not have any:  the preferred URL has to be one that `copy_ice_url` refuses. -/
theorem build_ice_servers_iff (getObjectItem : GetObjectItem) (stun turn : Option CJson) :
    (buildIceServers getObjectItem stun turn).length ≤ maxIceServers ∧
        buildIceServers getObjectItem stun turn = offered getObjectItem stun turn ↔
      StunOk stun ∧ TurnOk getObjectItem turn := by
  obtain ⟨hlen, hbuild⟩ := buildIceServers_eq getObjectItem stun turn
  have hle : (buildIceServers getObjectItem stun turn).length ≤ maxIceServers := by
    rw [hbuild, List.length_append]
    exact Nat.add_le_add hlen (Option.length_toList_le)
  have hstun : ∀ e ∈ stunLoop (elements stun) [], e.user = none := by
    rw [stunLoop_eq, List.nil_append]
    exact fun e he => user_stun he
  rw [hbuild, offered, append_toList_inj hstun (fun e he => user_stun he)
    (user_turnBuilt getObjectItem turn) (user_turnOffered getObjectItem turn), stun_eq_iff,
    turn_eq_iff]
  exact ⟨And.right, fun h => ⟨hbuild ▸ hle, h⟩⟩

/-- `cJSON_GetObjectItem` as documented: the first member of that name, in any letter case. -/
def getItem (members : List (CStr × CJson)) (key : List Byte) : Option CJson :=
  (members.find? fun m => m.1.val.map lower == key.map lower).map Prod.snd
where
  lower (c : Byte) : Byte := if 0x41 ≤ c && c ≤ 0x5A then c + 0x20 else c

/-- A STUN list with a null in it. -/
def gapStun : CJson :=
  .arr [.str ⟨ascii "stun:a", by decide⟩, .null, .str ⟨ascii "stun:b", by decide⟩]

/-- TURN with these URLs and this username. -/
def turnWith (urls : List CStr) (username : CStr) : CJson :=
  .obj [(⟨ascii "urls", by decide⟩, .arr (urls.map .str)),
    (⟨ascii "username", by decide⟩, .str username),
    (⟨ascii "credential", by decide⟩, .str ⟨ascii "pw", by decide⟩)]

/-- A username of 129 bytes. -/
def longUser : CStr := ⟨List.replicate 129 0x61, by decide⟩

/-- **Three tables that are not the offer's**: a STUN URL is lost behind a null, a usable TURN URL
behind an empty one, and a username loses its last byte. -/
theorem tables_differ :
    (buildIceServers getItem (some gapStun) none = [⟨ascii "stun:a", none, none⟩] ∧
      offered getItem (some gapStun) none =
        [⟨ascii "stun:a", none, none⟩, ⟨ascii "stun:b", none, none⟩]) ∧
    (buildIceServers getItem none (some (turnWith [⟨[], by decide⟩, ⟨ascii "turn:a", by decide⟩]
        ⟨ascii "me", by decide⟩)) = [] ∧
      offered getItem none (some (turnWith [⟨[], by decide⟩, ⟨ascii "turn:a", by decide⟩]
        ⟨ascii "me", by decide⟩)) = [⟨ascii "turn:a", some (ascii "me"), some (ascii "pw")⟩]) ∧
    (buildIceServers getItem none (some (turnWith [⟨ascii "turn:a", by decide⟩] longUser)) =
        [⟨ascii "turn:a", some (List.replicate 128 0x61), some (ascii "pw")⟩] ∧
      offered getItem none (some (turnWith [⟨ascii "turn:a", by decide⟩] longUser)) = []) := by
  decide +kernel

end Firmware

end Surveillance
