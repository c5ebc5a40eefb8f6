/-
# Login, and the cookie that comes back

`POST /api/login` writes the token raw into a `Set-Cookie` value, a browser keeps what the cookie
rules make of it, and `getCookie` reads it back with a splitter of its own.  Which characters a
token may have is decided elsewhere: `config_validate` of the firmware takes every byte from 0x21
to 0x7e, and `;` is one of them.

`login_sticks_iff` says when the cookie is accepted: **the token has no `;`**, and no cookie sent
before it is read under its name with another value.  The second part is about names that differ
only by white space that a browser keeps and `trim` removes; between names without any
(`sticks_iff_of_names`) only the `;` remains.  A token with a `;` is cut in the browser
(`semicolon_token_lost`): the login succeeds, and every page asks for it again.

A cookie that was set before, for the same host, comes first in the header if its path is longer or
it is older; the first that is read under the name counts.  Names that only `trim` makes equal are
the one case in which another cookie can be in the way, and no browser sends two cookies of one
name and path.

The token comes from the firmware's settings because the two have to be the same: whoever deploys
the Worker types the token of the camera.
-/
import Surveillance.Firmware.Config
import Surveillance.Worker.Gate

namespace Surveillance

namespace Worker

open Json (utf16)
open JsString (latin1)
open Firmware (DeviceConfig configValidate)

/-! ## 1. What a login answers

The response of a login is evaluated up to its header; what is left is the text of the token. -/

/-- `auth_token`, as `config_validate` accepts it. -/
def TokenText (token : List Byte) : Prop := token ≠ [] ∧ ∀ c ∈ token, 0x21 ≤ c ∧ c ≤ 0x7e

/-- What follows the `;` after the token. -/
def cookieAttributes (url : Url) : List Byte :=
  ascii " HttpOnly; SameSite=Lax; Path=/; Max-Age=31536000" ++
    (if url.protocol = utf16 "https:" then ascii "; Secure" else [])

/-- The `Set-Cookie` value of a login. -/
def setCookieOf (url : Url) (token : List Byte) : List Byte :=
  ascii "esp32cam_session" ++ 0x3D :: (token ++ 0x3B :: cookieAttributes url)

theorem loginCookie_latin1 (url : Url) (token : List Byte) :
    loginCookie url (latin1 token) = latin1 (setCookieOf url token) := by
  have hattributes : latin1 (0x3B :: cookieAttributes url) =
      utf16 "; HttpOnly; SameSite=Lax; Path=/; " ++ (utf16 "Max-Age=" ++
        (utf16 (toString sessionMaxAge) ++
          (if url.protocol = utf16 "https:" then utf16 "; Secure" else []))) := by
    unfold cookieAttributes
    split
    · decide +kernel
    · decide +kernel
  have hname : latin1 (ascii "esp32cam_session" ++ [0x3D]) = sessionCookie ++ utf16 "=" := by
    decide +kernel
  have hset : setCookieOf url token =
      (ascii "esp32cam_session" ++ [0x3D]) ++ (token ++ 0x3B :: cookieAttributes url) := by
    rw [setCookieOf, List.append_assoc, List.singleton_append]
  rw [hset, JsString.latin1_append, hname, JsString.latin1_append, hattributes, loginCookie]
  simp only [List.append_assoc]

/-- The value starts with a letter and ends with a letter or a digit. -/
theorem trim_setCookieOf (url : Url) (token : List Byte) :
    trimBy isHttpSpace (setCookieOf url token) = setCookieOf url token := by
  obtain ⟨attributes, b, hattributes, hb⟩ : ∃ attributes b,
      cookieAttributes url = attributes ++ [b] ∧ isHttpSpace b = false := by
    unfold cookieAttributes
    split
    · exact ⟨ascii " HttpOnly; SameSite=Lax; Path=/; Max-Age=31536000; Secur", 0x65,
        by decide +kernel, by decide⟩
    · exact ⟨ascii " HttpOnly; SameSite=Lax; Path=/; Max-Age=3153600", 0x30,
        by decide +kernel, by decide⟩
  have hname : ascii "esp32cam_session" = 0x65 :: ascii "sp32cam_session" := by decide +kernel
  have hset : setCookieOf url token =
      0x65 :: ((ascii "sp32cam_session" ++ 0x3D :: (token ++ 0x3B :: attributes)) ++ [b]) := by
    rw [setCookieOf, hname, hattributes]
    simp
  rw [hset]
  exact trimBy_of_ends (by decide) hb _

theorem isHeaderBreak_token {token : List Byte} (htoken : TokenText token) :
    token.any isHeaderBreak = false := by
  rw [List.any_eq_false]
  intro c hc hbreak
  have hge := (htoken.2 c hc).1
  simp only [isHeaderBreak, Bool.or_eq_true, beq_iff_eq] at hbreak
  rcases hbreak with (rfl | rfl) | rfl <;> exact absurd hge (by decide)

theorem headerValue?_loginCookie (url : Url) {token : List Byte} (htoken : TokenText token) :
    headerValue? (loginCookie url (latin1 token)) = some (setCookieOf url token) := by
  have hname : (ascii "esp32cam_session").any isHeaderBreak = false := by decide +kernel
  have hattributes : (cookieAttributes url).any isHeaderBreak = false := by
    unfold cookieAttributes
    split
    · decide +kernel
    · decide +kernel
  have hno : (setCookieOf url token).any isHeaderBreak = false := by
    rw [setCookieOf, List.any_append, List.any_cons, List.any_append, List.any_cons, hname,
      isHeaderBreak_token htoken, hattributes]
    rfl
  rw [loginCookie_latin1, headerValue?, JsString.byteString?_latin1, Option.bind_some,
    trim_setCookieOf]
  dsimp only
  rw [hno, if_neg Bool.false_ne_true]

/-- **A login with the token succeeds**, and sets the cookie. -/
theorem login_of_post {env : Env} {request : Request} {token : List Byte}
    (htoken : TokenText token) (henv : env.sharedAuthToken = latin1 token)
    (hpost : LoginPost request env.sharedAuthToken) :
    login env request = .ok (loggedIn (setCookieOf request.url token)) := by
  obtain ⟨json, hparse, hfield⟩ := hpost.body
  have hne : latin1 token ≠ [] := fun h => htoken.1 (List.map_eq_nil_iff.mp h)
  have hnull : json ≠ .null := by
    rintro rfl
    cases hfield
  rw [henv] at hfield
  unfold login
  rw [if_neg (not_not.mpr hpost.method), hparse]
  cases json with
  | null => exact absurd rfl hnull
  | obj members =>
    simp only [hfield, henv, hne, tokensEqual_self, headerValue?_loginCookie _ htoken, if_false,
      Bool.not_true, Bool.false_eq_true]
  | _ => cases hfield

theorem fetch_of_login {σ : Type} (B : Bindings σ) (env : Env) {request : Request}
    (hplain : isUpgrade request = false) (hpath : request.url.pathname = utf16 "/api/login")
    (w : World σ) : (fetch B env request).exec w = (login env request, w) := by
  have hfetch : fetch B env request = ExceptT.mk (pure (login env request)) := by
    rw [fetch, hplain, if_neg Bool.false_ne_true, if_pos hpath]
  rw [hfetch]
  rfl

/-! ## 2. What a page reads

Reading is `Cookie.read` of what the browser sends, under the name of the session. -/

/-- The cookie is read under the name of the session. -/
def ReadsAsSession (d : Cookie) : Prop := d.read.1 = sessionCookie

instance (d : Cookie) : Decidable (ReadsAsSession d) := inferInstanceAs (Decidable (_ = _))

/-- When the session cookie comes back as the token. -/
structure Sticks (token : List Byte) (before : List Cookie) : Prop where
  whole : 0x3B ∉ token
  first : ∀ d, before.find? (ReadsAsSession ·) = some d → d.read.2 = latin1 token

/-- Between names without white space only the token matters. -/
theorem sticks_iff_of_names {token : List Byte} {before : List Cookie}
    (h : ∀ d ∈ before, (∀ u ∈ latin1 d.name, JsString.isSpace u = false) ∧
      d.name ≠ ascii "esp32cam_session") :
    Sticks token before ↔ 0x3B ∉ token := by
  refine ⟨Sticks.whole, fun hwhole => ⟨hwhole, fun d hfind => ?_⟩⟩
  obtain ⟨hplain, hother⟩ := h d (List.mem_of_find?_eq_some hfind)
  have hreads : ReadsAsSession d := by simpa using List.find?_some hfind
  have hname : latin1 d.name = latin1 (ascii "esp32cam_session") :=
    calc latin1 d.name = d.read.1 := (trimBy_eq_self hplain).symm
      _ = sessionCookie := hreads
      _ = latin1 (ascii "esp32cam_session") := by decide +kernel
  exact absurd (JsString.latin1_injective hname) hother

/-- A character of a token is no white space. -/
theorem isSpace_latin1 {token : List Byte} (h : ∀ c ∈ token, 0x21 ≤ c ∧ c ≤ 0x7e) :
    ∀ u ∈ latin1 token, JsString.isSpace u = false := by
  intro u hu
  obtain ⟨c, hc, rfl⟩ := List.mem_map.mp hu
  have hge : 0x21 ≤ c.toNat := UInt8.le_iff_toNat_le.mp (h c hc).1
  have hle : c.toNat ≤ 0x7e := UInt8.le_iff_toNat_le.mp (h c hc).2
  refine JsString.isSpace_of_between ?_ ?_
  · rw [UInt8.toNat_toUInt16]
    exact hge
  · rw [UInt8.toNat_toUInt16]
    omega

/-- **A page finds the first cookie read as the session**, the session cookie itself when no
other is sent before it. -/
theorem cookie_of_header {before after : List Cookie} {c : Cookie} (hc : ReadsAsSession c)
    {page : Request}
    (hpage : page.headers.get "Cookie" = some (latin1 (cookieHeader (before ++ c :: after)))) :
    page.cookie sessionCookie =
      some (((before.find? (ReadsAsSession ·)).getD c).read.2) := by
  rw [Request.cookie, hpage, Option.bind_some, cookiePairs_cookieHeader, List.find?_map,
    Option.map_map]
  have hfind : (before ++ c :: after).find? (ReadsAsSession ·) =
      some ((before.find? (ReadsAsSession ·)).getD c) := by
    rw [List.find?_append, List.find?_cons_of_pos (by simpa using hc)]
    cases before.find? (ReadsAsSession ·) with
    | none => rfl
    | some d => rfl
  exact congrArg (Option.map _) hfind

/-- **The session cookie is accepted exactly when it sticks.** -/
theorem viewerAuthorized_iff_sticks {env : Env} (hcf : CollisionFree env) {token : List Byte}
    (htoken : TokenText token) (henv : env.sharedAuthToken = latin1 token) {c : Cookie}
    (hname : c.name = ascii "esp32cam_session") (hvalue : c.value = token.takeWhile (· ≠ 0x3B))
    {before after : List Cookie} {page : Request}
    (hpage : page.headers.get "Cookie" = some (latin1 (cookieHeader (before ++ c :: after)))) :
    viewerAuthorized env page = true ↔ Sticks token before := by
  have hne : env.sharedAuthToken ≠ [] := by
    rw [henv]
    exact fun h => htoken.1 (List.map_eq_nil_iff.mp h)
  have hc : ReadsAsSession c := by
    have htrim : JsString.trim (latin1 (ascii "esp32cam_session")) = sessionCookie := by
      decide +kernel
    rw [ReadsAsSession, Cookie.read, hname]
    exact htrim
  rw [viewerAuthorized_iff hcf hne, cookie_of_header hc hpage, henv, Option.some.injEq]
  cases hfind : before.find? (ReadsAsSession ·) with
  | none =>
    have hread : c.read.2 = latin1 (token.takeWhile (· ≠ 0x3B)) := by
      rw [Cookie.read, hvalue]
      refine trimBy_eq_self (isSpace_latin1 fun b hb => ?_)
      exact htoken.2 b ((List.takeWhile_sublist _).subset hb)
    rw [Option.getD_none, hread, JsString.latin1_injective.eq_iff, takeWhile_semicolon_eq_iff]
    exact ⟨fun h => ⟨h, fun d hd => absurd (hfind.symm.trans hd) (by simp)⟩, Sticks.whole⟩
  | some d =>
    rw [Option.getD_some]
    constructor
    · intro h
      refine ⟨fun hsemi => ?_, fun d' hd' => ?_⟩
      -- No cookie a browser keeps has a `;` in its value.
      · have hmem : (0x3B : Byte).toUInt16 ∈ latin1 token := List.mem_map_of_mem hsemi
        rw [← h] at hmem
        exact notMem_latin1 d.value_ok (mem_of_mem_trimBy hmem)
      · rw [← Option.some.inj (hfind.symm.trans hd')]
        exact h
    · exact fun h => h.first d hfind

/-! ## 3. Login sticks

One theorem over the four stages: accepted by the firmware, set, stored, read. -/

theorem sessionName_ok :
    0x3D ∉ ascii "esp32cam_session" ∧ 0x3B ∉ ascii "esp32cam_session" := by decide +kernel

/-- **Login sticks exactly when the token has no `;`** and no cookie before it takes its place.
For every token `config_validate` accepts the login succeeds; the browser keeps a cookie of its
answer, and a page that comes with it, alone or among others, is let in under that condition.  The
token of a login that does not stick is not refused anywhere, so nobody is told. -/
theorem login_sticks_iff {cfg : DeviceConfig} {beyond : List Byte}
    (hcfg : configValidate cfg beyond = .ok) {env : Env} (hcf : CollisionFree env)
    (henv : env.sharedAuthToken = latin1 cfg.token) {request : Request}
    (hplain : isUpgrade request = false) (hpost : LoginPost request env.sharedAuthToken)
    {σ : Type} (B : Bindings σ) (w : World σ) :
    ∃ resp setCookie c, (fetch B env request).exec w = (.ok resp, w) ∧ resp.status = 200 ∧
      resp.headers.get "Set-Cookie" = some (latin1 setCookie) ∧ storeCookie setCookie = some c ∧
      ∀ (before after : List Cookie) (page : Request),
        page.headers.get "Cookie" = some (latin1 (cookieHeader (before ++ c :: after))) →
        (viewerAuthorized env page = true ↔ Sticks cfg.token before) := by
  have htoken : TokenText cfg.token :=
    ((Firmware.configValidate_eq_ok_iff beyond).mp hcfg).token
  have hblank : ∀ b ∈ ascii "esp32cam_session" ++ cfg.token, isBlank b = false := by
    intro b hb
    rcases List.mem_append.mp hb with hb | hb
    · have hall : (ascii "esp32cam_session").all (fun b => !isBlank b) = true := by decide +kernel
      simpa using List.all_eq_true.mp hall b hb
    · have hge := (htoken.2 b hb).1
      rw [isBlank, Bool.or_eq_false_iff, beq_eq_false_iff_ne, beq_eq_false_iff_ne]
      constructor
      · rintro rfl
        exact absurd hge (by decide)
      · rintro rfl
        exact absurd hge (by decide)
  obtain ⟨c, hstore, hname, hvalue⟩ := storeCookie_append sessionName_ok hblank
    (cookieAttributes request.url)
  have hrun := fetch_of_login B env hplain hpost.path w
  rw [login_of_post htoken henv hpost] at hrun
  refine ⟨_, _, c, hrun, rfl, loggedIn_setCookie _, hstore, ?_⟩
  intro before after page hpage
  exact viewerAuthorized_iff_sticks hcf htoken henv hname hvalue hpage

/-- The login form of the local Worker, posted. -/
def loginRequest (token : String) : Request :=
  ⟨"POST", yardUrl "/api/login", [], "\x7b\"token\":\"" ++ token ++ "\"\x7d"⟩

/-- The device list, asked for with these cookies. -/
def visit (cs : List Cookie) : Request :=
  ⟨"GET", yardUrl "/", [(ascii "Cookie", cookieHeader cs)], ""⟩

theorem visit_get (cs : List Cookie) :
    (visit cs).headers.get "Cookie" = some (latin1 (cookieHeader cs)) :=
  get_cons_self rfl _

def themeCookie : Cookie where
  name := ascii "theme"
  value := ascii "dark"
  name_ok := by decide +kernel
  value_ok := by decide +kernel
  trimmed := by decide +kernel

/-- The token of the yard camera, with another cookie on either side. -/
theorem login_sticks_yard :
    ∃ resp setCookie c, (fetch yardBindings yardEnv (loginRequest "s3cret")).exec ⟨0, []⟩ =
        (.ok resp, ⟨0, []⟩) ∧ resp.headers.get "Set-Cookie" = some (latin1 setCookie) ∧
      storeCookie setCookie = some c ∧
      viewerAuthorized yardEnv (visit ([themeCookie] ++ c :: [themeCookie])) = true := by
  have hbody : Json.parse (loginRequest "s3cret").body =
      some (.obj [(utf16 "token", .str (utf16 "s3cret"))]) := by decide +kernel
  have hpost : LoginPost (loginRequest "s3cret") yardEnv.sharedAuthToken :=
    ⟨rfl, rfl, _, hbody, by decide +kernel⟩
  have hcfg : configValidate Firmware.yardCamera [] = .ok := by decide +kernel
  obtain ⟨resp, setCookie, c, hrun, -, hset, hstore, hsticks⟩ := login_sticks_iff hcfg
    yardEnv_collisionFree (by decide +kernel) (by decide +kernel) hpost yardBindings ⟨0, []⟩
  refine ⟨resp, setCookie, c, hrun, hset, hstore, ?_⟩
  refine (hsticks [themeCookie] [themeCookie] _ (visit_get _)).mpr ?_
  have hnames : ∀ d ∈ [themeCookie], (∀ u ∈ latin1 d.name, JsString.isSpace u = false) ∧
      d.name ≠ ascii "esp32cam_session" := by
    intro d hd
    rw [List.mem_singleton.mp hd]
    exact ⟨isSpace_latin1 (by decide +kernel), by decide +kernel⟩
  rw [sticks_iff_of_names hnames]
  decide +kernel

/-- A camera whose token has a `;`. -/
def semicolonCamera : DeviceConfig :=
  { Firmware.yardCamera with
    authToken := Firmware.copyInto (Firmware.zeros _) (ascii "a;b") }

/-- Its token, and SHA-256 of `a;b` and of `a`. -/
def semicolonEnv : Env where
  sharedAuthToken := utf16 "a;b"
  sha256 := digestOf (ascii "a;b")
    [0x57, 0x19, 0xAF, 0x18, 0x82, 0x35, 0x67, 0x70, 0x1F, 0x70, 0xE9, 0xF3, 0x02, 0xF7, 0x5D,
      0x96, 0xE5, 0x74, 0x21, 0x54, 0x93, 0x28, 0x62, 0x86, 0xA5, 0x7B, 0x0A, 0x49, 0x59, 0x67,
      0x22, 0x83]
    [0xCA, 0x97, 0x81, 0x12, 0xCA, 0x1B, 0xBD, 0xCA, 0xFA, 0xC2, 0x31, 0xB3, 0x9A, 0x23, 0xDC,
      0x4D, 0xA7, 0x86, 0xEF, 0xF8, 0x14, 0x7C, 0x4E, 0x72, 0xB9, 0x80, 0x77, 0x85, 0xAF, 0xEE,
      0x48, 0xBB]

/-- **A token with a `;` does not log in.**  The firmware accepts it, the login succeeds, and the
page that comes with the browser's cookie, alone, is refused. -/
theorem semicolon_token_lost :
    configValidate semicolonCamera [] = .ok ∧
      semicolonEnv.sharedAuthToken = latin1 semicolonCamera.token ∧
      LoginPost (loginRequest "a;b") semicolonEnv.sharedAuthToken ∧
      ∃ resp setCookie c,
        (fetch yardBindings semicolonEnv (loginRequest "a;b")).exec ⟨0, []⟩ =
          (.ok resp, ⟨0, []⟩) ∧ resp.status = 200 ∧
        resp.headers.get "Set-Cookie" = some (latin1 setCookie) ∧
        storeCookie setCookie = some c ∧ viewerAuthorized semicolonEnv (visit [c]) = false := by
  have hbody : Json.parse (loginRequest "a;b").body =
      some (.obj [(utf16 "token", .str (utf16 "a;b"))]) := by decide +kernel
  have henv : semicolonEnv.sharedAuthToken = latin1 (ascii "a;b") := by decide +kernel
  have hpost : LoginPost (loginRequest "a;b") semicolonEnv.sharedAuthToken :=
    ⟨rfl, rfl, _, hbody, by decide +kernel⟩
  have htoken : TokenText (ascii "a;b") := by
    constructor
    · decide +kernel
    · decide +kernel
  have hblank : ∀ b ∈ ascii "esp32cam_session" ++ ascii "a;b", isBlank b = false := by
    decide +kernel
  obtain ⟨c, hstore, hname, hvalue⟩ := storeCookie_append sessionName_ok hblank
    (cookieAttributes (loginRequest "a;b").url)
  have hplain : isUpgrade (loginRequest "a;b") = false := by decide +kernel
  have hrun := fetch_of_login yardBindings semicolonEnv hplain rfl ⟨0, []⟩
  rw [login_of_post htoken henv hpost] at hrun
  refine ⟨by decide +kernel, by decide +kernel, hpost, _, _, c, hrun, rfl, loggedIn_setCookie _,
    hstore, ?_⟩
  have hcf : CollisionFree semicolonEnv := collisionFree_digestOf (by decide +kernel) (by decide)
  have hget : (visit [c]).headers.get "Cookie" = some (latin1 (cookieHeader ([] ++ [c]))) :=
    visit_get [c]
  have hiff := viewerAuthorized_iff_sticks hcf htoken henv hname hvalue hget
  rw [← Bool.not_eq_true, hiff]
  intro hsticks
  exact absurd hsticks.whole (by decide +kernel)

end Worker

end Surveillance
