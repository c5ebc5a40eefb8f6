/-
# The gate: what a request without credentials can learn and change

`cloudflare/src/index.ts`, "every page fetch, /api call, and viewer WS upgrade checks the cookie".
The routes are mixed: upgrades and pages, two kinds of credential, and returns before and after
the check.  `unauthenticated_sees_nothing` is the statement over all of them at once, for two runs:
without the header, the cookie and the login, **`fetch` gives the same response in any two worlds
and leaves both as they were**, with no call made, and the response sets no cookie.

The three lemmas below it say what each check decides: `deviceAuthorized_iff` and
`viewerAuthorized_iff` that a request passes exactly with the token, `setCookie_of_login` that
nothing but the token is ever put into a cookie.  A wrong token may have the same UTF-8 form as
the shared one, when one of them holds lone surrogates; it then ends in the `TypeError` of its own
`Set-Cookie` header.

That both runs end alike is the strongest way to say that nothing is learnt: the response may
depend on the request in any way it likes, and on nothing behind the bindings.  It is a stronger
statement than that the check fails, because a route that answered before its check would be found.

The digest is any function under which no other text has the digest of the shared token, which is
what SHA-256 is used for.
-/
import Surveillance.Lib.Cookie
import Surveillance.Worker.Fetch

namespace Surveillance

namespace Worker

open Json (utf16)
open JsString (latin1)

/-! ## 1. Cookies

The code splits the header by hand; the lemma says that this is the splitter of the cookie rules. -/

/-- The value of the first cookie of this name. -/
def Request.cookie (request : Request) (name : JsString) : Option JsString :=
  (request.headers.get "Cookie").bind fun header =>
    ((cookiePairs header).find? fun p => p.1 = name).map (·.2)

theorem cookieLoop_eq (name : JsString) (parts : List JsString) :
    cookieLoop name parts =
      ((parts.filterMap cookiePair).find? fun p => p.1 = name).map (·.2) := by
  induction parts with
  | nil => rfl
  | cons part rest ih =>
    rw [cookieLoop]
    cases heq : part.idxOf? 0x3D with
    | none =>
      have hnone : cookiePair part = none := by rw [cookiePair, heq, Option.map_none]
      rw [List.filterMap_cons_none hnone]
      exact ih
    | some eq =>
      have hsome : cookiePair part =
          some (JsString.trim (part.take eq), JsString.trim (part.drop (eq + 1))) := by
        rw [cookiePair, heq, Option.map_some]
      rw [List.filterMap_cons_some hsome]
      by_cases hname : JsString.trim (part.take eq) = name
      · rw [List.find?_cons_of_pos (by simpa using hname), Option.map_some]
        exact if_pos hname
      · rw [List.find?_cons_of_neg (by simpa using hname), ← ih]
        exact if_neg hname

/-- **`getCookie` finds the first cookie of the name.** -/
theorem getCookie_eq (request : Request) (name : JsString) :
    getCookie request name = request.cookie name := by
  unfold getCookie Request.cookie
  cases request.headers.get "Cookie" with
  | none => rfl
  | some header =>
    rw [Option.bind_some, cookiePairs, ← cookieLoop_eq]
    by_cases hnil : header = []
    · subst hnil
      rfl
    · exact if_neg hnil

/-- The one value of a name. -/
theorem get_cons_self {headers : Headers} {name : String} (h : headers.get name = none)
    (value : List Byte) :
    Headers.get ((ascii name, value) :: headers) name = some (latin1 value) := by
  have hnone : headers.filter (fun h => h.1.map lowerByte == (ascii name).map lowerByte) = [] := by
    unfold Headers.get at h
    split at h
    · next hnil => exact hnil
    · cases h
  have hone : List.filter (fun h => h.1.map lowerByte == (ascii name).map lowerByte)
      ((ascii name, value) :: headers) = [(ascii name, value)] := by
    rw [List.filter_cons_of_pos, hnone]
    exact beq_self_eq_true _
  rw [Headers.get, hone]
  dsimp only
  rw [List.map_singleton, List.intercalate_singleton]

theorem lt_of_get {headers : Headers} {name : String} {v : JsString}
    (h : headers.get name = some v) : ∀ u ∈ v, u.toNat < 0x100 := by
  unfold Headers.get at h
  split at h
  · cases h
  · obtain rfl := Option.some.inj h
    exact fun u hu => JsString.lt_of_mem_latin1 hu

theorem lt_of_cookie {request : Request} {name v : JsString} (h : request.cookie name = some v) :
    ∀ u ∈ v, u.toNat < 0x100 := by
  obtain ⟨header, hheader, hfind⟩ := Option.bind_eq_some_iff.mp h
  obtain ⟨pair, hpair, rfl⟩ := Option.map_eq_some_iff.mp hfind
  obtain ⟨part, hpart, hread⟩ := List.mem_filterMap.mp (List.mem_of_find?_eq_some hpair)
  obtain ⟨eq, -, rfl⟩ := Option.map_eq_some_iff.mp hread
  intro u hu
  exact lt_of_get hheader u
    ((sublist_of_mem_splitOn hpart).subset (List.mem_of_mem_drop (mem_of_mem_trimBy hu)))

/-! ## 2. Credentials

A credential is compared as a string of one-byte units with a text, and equal digests are equal
strings then. -/

/-- No other text has the digest of the shared token.  The comparison is of digests, and this is
what SHA-256 is relied on for. -/
def CollisionFree (env : Env) : Prop :=
  ∀ s, env.sha256 s = env.sha256 (JsString.utf8 env.sharedAuthToken) →
    s = JsString.utf8 env.sharedAuthToken

theorem tokensEqual_self (env : Env) (a : JsString) : env.tokensEqual a a = true :=
  beq_self_eq_true _

/-- A string of one-byte units passes only as the token. -/
theorem eq_of_tokensEqual {env : Env} (hcf : CollisionFree env) {a : JsString}
    (ha : ∀ u ∈ a, u.toNat < 0x100) (h : env.tokensEqual a env.sharedAuthToken = true) :
    a = env.sharedAuthToken :=
  (JsString.eq_of_utf8_eq ha (hcf _ (beq_iff_eq.mp h)).symm).symm

/-- **A device is authorized by the header that carries the token**, and by nothing else. -/
theorem deviceAuthorized_iff {env : Env} (hcf : CollisionFree env) (request : Request) :
    deviceAuthorized env request = true ↔
      request.headers.get "Authorization" = some (bearer ++ env.sharedAuthToken) := by
  cases hget : request.headers.get "Authorization" with
  | none =>
    have hno : deviceAuthorized env request = false := by
      rw [deviceAuthorized, hget]
      rfl
    simp [hno]
  | some authz =>
    have hauth : deviceAuthorized env request =
        if !bearer.isPrefixOf authz then false
        else env.tokensEqual (authz.drop bearer.length) env.sharedAuthToken := by
      rw [deviceAuthorized, hget, Option.getD_some]
    rw [hauth, Option.some.injEq]
    by_cases hpre : bearer <+: authz
    · obtain ⟨token, rfl⟩ := hpre
      have hpos : bearer.isPrefixOf (bearer ++ token) = true :=
        List.isPrefixOf_iff_prefix.mpr (List.prefix_append _ _)
      rw [hpos, List.drop_left, List.append_cancel_left_eq]
      constructor
      · intro h
        exact eq_of_tokensEqual hcf
          (fun u hu => lt_of_get hget u (List.mem_append_right _ hu)) h
      · rintro rfl
        exact tokensEqual_self env _
    · have hneg : bearer.isPrefixOf authz = false := by
        rw [← Bool.not_eq_true, List.isPrefixOf_iff_prefix]
        exact hpre
      rw [hneg]
      constructor
      · intro h
        cases h
      · rintro rfl
        exact absurd (List.prefix_append _ _) hpre

/-- **A viewer is authorized by the cookie that is the token**, and by nothing else. -/
theorem viewerAuthorized_iff {env : Env} (hcf : CollisionFree env)
    (htoken : env.sharedAuthToken ≠ []) (request : Request) :
    viewerAuthorized env request = true ↔
      request.cookie sessionCookie = some env.sharedAuthToken := by
  unfold viewerAuthorized
  rw [getCookie_eq]
  cases hcookie : request.cookie sessionCookie with
  | none => simp
  | some session =>
    rw [Option.some.injEq]
    constructor
    · intro h
      by_cases hnil : session = []
      · rw [hnil] at h
        cases h
      · exact eq_of_tokensEqual hcf (lt_of_cookie hcookie) (by simpa [hnil] using h)
    · rintro rfl
      simp [htoken, tokensEqual_self]

/-! ## 3. The login -/

/-- A login POST that carries this token. -/
structure LoginPost (request : Request) (token : JsString) : Prop where
  method : request.method = "POST"
  path : request.url.pathname = utf16 "/api/login"
  body : ∃ json, Json.parse request.body = some json ∧ json.field "token" = some (.str token)

theorem jsonResponse_setCookie (status : Nat) (text : JsString) :
    (jsonResponse status [] text).headers.get "Set-Cookie" = none := rfl

theorem textResponse_setCookie (status : Nat) (body : String) :
    (textResponse status body).headers.get "Set-Cookie" = none := rfl

theorem loggedIn_setCookie (setCookie : List Byte) :
    (loggedIn setCookie).headers.get "Set-Cookie" = some (latin1 setCookie) :=
  get_cons_self (jsonResponse_setCookie 200 []) setCookie

theorem lt_of_headerValue? {s : JsString} {value : List Byte} (h : headerValue? s = some value) :
    ∀ u ∈ s, u.toNat < 0x100 := by
  obtain ⟨b, hb, -⟩ := Option.bind_eq_some_iff.mp h
  exact JsString.lt_of_byteString? hb

/-- **Only the token gets a cookie.** -/
theorem setCookie_of_login {env : Env} (hcf : CollisionFree env) {request : Request}
    (hpath : request.url.pathname = utf16 "/api/login")
    (hpost : ¬ LoginPost request env.sharedAuthToken) {resp : Response}
    (h : login env request = .ok resp) : resp.headers.get "Set-Cookie" = none := by
  unfold login at h
  split at h
  · cases h
    rfl
  next hmethod =>
  split at h
  · cases h
    rfl
  · cases h
  next body _ hparse =>
  split at h
  · next token hfield =>
    split at h
    · cases h
      rfl
    split at h
    · cases h
      rfl
    next hequal =>
    split at h
    · cases h
    next value hvalue =>
    -- A token that passes and fits a header is the shared one, whatever surrogates it may hold.
    have hlt : ∀ u ∈ token, u.toNat < 0x100 := by
      intro u hu
      refine lt_of_headerValue? hvalue u ?_
      simp [loginCookie, hu]
    have heq : token = env.sharedAuthToken := eq_of_tokensEqual hcf hlt (by simpa using hequal)
    subst heq
    exact absurd ⟨not_not.mp hmethod, hpath, body, hparse, hfield⟩ hpost
  · cases h
    rfl

/-! ## 4. Two runs

The request decides everything before the first `await`, and without credentials there is no first
`await`. -/

/-- None of the three credentials. -/
structure Unauthenticated (env : Env) (request : Request) : Prop where
  device : request.headers.get "Authorization" ≠ some (bearer ++ env.sharedAuthToken)
  /-- The cookie is the one the Worker reads under that name.  `getCookie` trims a part before it
  compares the name, so a cookie that a browser keeps under another name, which differs by white
  space that only `trim` removes, is a session cookie here. -/
  session : request.cookie sessionCookie ≠ some env.sharedAuthToken
  login : ¬ LoginPost request env.sharedAuthToken

/-- An upgrade that fails the checks of its path. -/
theorem fetchUpgrade_of_unauthorized {env : Env} {request : Request}
    (hdevice : deviceAuthorized env request = false)
    (hviewer : viewerAuthorized env request = false) :
    ∃ status body, ∀ (σ : Type) (B : Bindings σ),
      fetchUpgrade B env request = return textResponse status body := by
  by_cases hmethod : request.method ≠ "GET"
  · exact ⟨_, _, fun σ B => if_pos hmethod⟩
  cases hid : matchId "/signaling/" request.url.pathname with
  | some id =>
    refine ⟨401, "unauthorized", fun σ B => ?_⟩
    rw [fetchUpgrade, if_neg hmethod, hid, hdevice]
    rfl
  | none =>
    cases hview : matchId "/view-signaling/" request.url.pathname with
    | some id =>
      refine ⟨401, "unauthorized", fun σ B => ?_⟩
      rw [fetchUpgrade, if_neg hmethod, hid, hview, hviewer]
      rfl
    | none =>
      refine ⟨404, "not found", fun σ B => ?_⟩
      rw [fetchUpgrade, if_neg hmethod, hid, hview]

theorem unauthorized_setCookie (request : Request) :
    (unauthorized request).headers.get "Set-Cookie" = none := by
  unfold unauthorized
  dsimp only
  split
  · rfl
  · rfl

/-- **What `fetch` does without credentials** is decided by the request alone. -/
theorem fetch_of_unauthenticated {env : Env} (hcf : CollisionFree env)
    (htoken : env.sharedAuthToken ≠ []) {request : Request} (h : Unauthenticated env request) :
    ∃ outcome : Except JsError Response,
      (∀ (σ : Type) (B : Bindings σ), fetch B env request = ExceptT.mk (pure outcome)) ∧
      ∀ resp, outcome = .ok resp → resp.headers.get "Set-Cookie" = none := by
  have hdevice : deviceAuthorized env request = false := by
    rw [← Bool.not_eq_true, deviceAuthorized_iff hcf]
    exact h.device
  have hviewer : viewerAuthorized env request = false := by
    rw [← Bool.not_eq_true, viewerAuthorized_iff hcf htoken]
    exact h.session
  by_cases hup : isUpgrade request = true
  · obtain ⟨status, body, hfetch⟩ := fetchUpgrade_of_unauthorized hdevice hviewer
    refine ⟨.ok (textResponse status body), fun σ B => ?_, ?_⟩
    · rw [fetch, if_pos hup]
      exact hfetch σ B
    · rintro resp ⟨⟩
      exact textResponse_setCookie status body
  by_cases hpath : request.url.pathname = utf16 "/api/login"
  · refine ⟨login env request, fun σ B => ?_, fun resp => setCookie_of_login hcf hpath h.login⟩
    rw [fetch, if_neg hup, if_pos hpath]
  · refine ⟨.ok (unauthorized request), fun σ B => ?_, ?_⟩
    · rw [fetch, if_neg hup, if_neg hpath, hviewer]
      rfl
    · rintro resp ⟨⟩
      exact unauthorized_setCookie request

/-- **Unauthenticated requests learn and change nothing.**  Two runs in any two worlds give the same
outcome, leave state and calls as they were, and set no cookie.  The worlds may differ in anything,
down to the type of the state behind the bindings, and so may the bindings themselves. -/
theorem unauthenticated_sees_nothing {env : Env} (hcf : CollisionFree env)
    (htoken : env.sharedAuthToken ≠ []) {request : Request} (h : Unauthenticated env request)
    {σ₁ σ₂ : Type} (B₁ : Bindings σ₁) (B₂ : Bindings σ₂) (w₁ : World σ₁) (w₂ : World σ₂) :
    ((fetch B₁ env request).exec w₁).1 = ((fetch B₂ env request).exec w₂).1 ∧
      ((fetch B₁ env request).exec w₁).2 = w₁ ∧ ((fetch B₂ env request).exec w₂).2 = w₂ ∧
      ∀ resp, ((fetch B₁ env request).exec w₁).1 = .ok resp →
        resp.headers.get "Set-Cookie" = none := by
  obtain ⟨outcome, hfetch, hcookie⟩ := fetch_of_unauthenticated hcf htoken h
  rw [hfetch σ₁ B₁, hfetch σ₂ B₂]
  exact ⟨rfl, rfl, rfl, hcookie⟩

/-- A digest known at two texts: the token's, and that of everything else. -/
def digestOf (token d other s : List Byte) : List Byte := if s = token then d else other

theorem collisionFree_digestOf {token : JsString} {text d other : List Byte}
    (htext : JsString.utf8 token = text) (hne : other ≠ d) :
    CollisionFree ⟨token, digestOf text d other⟩ := by
  subst htext
  intro s hs
  by_contra hs'
  have hdigest : digestOf (JsString.utf8 token) d other s =
      digestOf (JsString.utf8 token) d other (JsString.utf8 token) := hs
  rw [digestOf, digestOf, if_pos rfl, if_neg hs'] at hdigest
  exact hne hdigest

/-- SHA-256 of `s3cret` and of `guess`. -/
def yardEnv : Env where
  sharedAuthToken := utf16 "s3cret"
  sha256 := digestOf (ascii "s3cret")
    [0x1E, 0xC1, 0xC2, 0x6B, 0x50, 0xD5, 0xD3, 0xC5, 0x8D, 0x95, 0x83, 0x18, 0x1A, 0xF8, 0x07,
      0x66, 0x55, 0xFE, 0x00, 0x75, 0x6B, 0xF7, 0x28, 0x59, 0x40, 0xBA, 0x36, 0x70, 0xF9, 0x9F,
      0xCB, 0xA0]
    [0xF1, 0xAB, 0xE1, 0xB0, 0x83, 0xD1, 0x2D, 0x18, 0x1A, 0xE1, 0x36, 0xCF, 0xC7, 0x5B, 0x8D,
      0x18, 0xA8, 0xEC, 0xB4, 0x3A, 0xC4, 0xE9, 0xD1, 0xA3, 0x6D, 0x6A, 0x9C, 0x75, 0xB6, 0x01,
      0x6B, 0x61]

theorem yardEnv_collisionFree : CollisionFree yardEnv :=
  collisionFree_digestOf (by decide +kernel) (by decide)

/-- A page of the local Worker. -/
def yardUrl (path : String) : Url := ⟨utf16 "http:", utf16 "localhost:8787", utf16 path, [], []⟩

/-- A database that answers, and assets that are there, over a counter of the calls. -/
def yardBindings : Bindings Nat where
  d1 q n :=
    match q with
    | .createMeta | .createDevices | .putSchemaVersion => (.ok (), n + 1)
    | .schemaVersion => (.ok (some (utf16 "1")), n + 1)
    | .listDevices => (.ok [⟨utf16 "cam1", 1, none⟩], n + 1)
    | .findDevice id => (.ok (some id), n + 1)
  hub _ _ n := (.ok ⟨101, [], []⟩, n + 1)
  assets _ n := (.ok (textResponse 200 "viewer"), n + 1)

/-- A viewer page, asked for with a guess of the token. -/
def guess : Request :=
  ⟨"GET", yardUrl "/view/cam1", [(ascii "cookie", ascii "theme=dark; esp32cam_session=guess")], ""⟩

theorem unauthenticated_sees_nothing_guess :
    ((fetch yardBindings yardEnv guess).exec ⟨0, []⟩).1 =
        ((fetch yardBindings yardEnv guess).exec ⟨7, []⟩).1 ∧
      ((fetch yardBindings yardEnv guess).exec ⟨0, []⟩).2 = ⟨0, []⟩ := by
  have hguess : Unauthenticated yardEnv guess := by
    refine ⟨by decide +kernel, by decide +kernel, ?_⟩
    intro hpost
    exact absurd hpost.method (by decide)
  have hrun := unauthenticated_sees_nothing yardEnv_collisionFree (by decide) hguess yardBindings
    yardBindings ⟨0, []⟩ ⟨7, []⟩
  exact ⟨hrun.1, hrun.2.1⟩

end Worker

end Surveillance
