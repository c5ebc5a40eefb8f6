/-
# Minting the ICE servers of a session

`mintIceServers` (`cloudflare/src/turn.ts`) asks Cloudflare's TURN API for credentials and
normalizes the answer; without the two settings, and after every failure, it degrades to
STUN only, which keeps viewing on the same network working.  The fetch is the only await of it that
lets other events in, so the function is split there: `turnConfigured` decides whether a fetch is
made, and `iceServersOfFetch` is what the handler does with the outcome.

The response body is unchecked JSON.  Reading a property of `null` throws a `TypeError`, and so
does iterating a value that is not an array or a string; all of it happens inside the function's
`try`, whose `catch` answers STUN only.  A `null` entry thus ends the loop as surely as credentials
do, and the entries behind it are never looked at.

The loop keeps the first entry with truthy credentials and a list of URLs.  What the URLs are, and
whether there are any, it does not ask; what comes of that is the subject of `MintedTurn.lean`.
Here only the one thing is proved that the hub relies on, that every answer has a STUN list.
-/
import Surveillance.DeviceHub.State

namespace Surveillance

/-- How `fetch` and `res.json()` ended. -/
inductive FetchOutcome where
  /-- `fetch` rejected. -/
  | failed
  /-- A response; `body` is `none` where `res.json()` rejects. -/
  | response (status : Nat) (body : Option Json)

def cfStun : String := "stun:stun.cloudflare.com:3478"

/-- Primary-port URLs, in canonical order (UDP first). -/
def keepTurnUrls : List String :=
  ["turn:turn.cloudflare.com:3478?transport=udp",
   "turn:turn.cloudflare.com:3478?transport=tcp",
   "turns:turn.cloudflare.com:5349?transport=tcp"]

def stunOnly : IceServers := ⟨[cfStun], none⟩

/-- Both TURN settings are present, so a fetch is made. -/
def Env.turnConfigured (env : Env) : Bool :=
  env.turnServerId ≠ "" && env.turnServerToken ≠ ""

/-- The canonical URLs the entry lists, in the canonical order, or everything it lists when there is
none.  Whatever else an entry lists beside a canonical URL is dropped. -/
def pickUrls (urls : List Json) : List Json :=
  let primary := keepTurnUrls.filter fun u => urls.any (·.isStr u)
  if primary.length > 0 then primary.map fun u => .str (Json.utf16 u) else urls

/-- One round of the entry loop: `none` is `continue`, and `null` throws. -/
def turnOfEntry (entry : Json) : Except Unit (Option TurnCreds) :=
  match entry with
  | .null => .error ()
  | entry =>
    match entry.field "username", entry.field "credential", entry.field "urls" with
    | some username, some credential, some (.arr urls) =>
      if username.truthy && credential.truthy then
        .ok (some ⟨pickUrls urls, username, credential⟩)
      else .ok none
    | _, _, _ => .ok none

/-- The entry loop.  A thrown error is caught by the function's `catch`, which forgets the entries
that came before as well. -/
def iceServersOfEntries : List Json → IceServers
  | [] => stunOnly
  | entry :: rest =>
    match turnOfEntry entry with
    | .error () => stunOnly
    | .ok none => iceServersOfEntries rest
    | .ok (some turn) => ⟨[cfStun], some turn⟩

/-- `data.iceServers ?? []`, iterated.  The characters of a string are no entries and a value
that is not iterable throws, so only an array matters. -/
def iceServersOfData (data : Json) : IceServers :=
  match data.field "iceServers" with
  | some (.arr entries) => iceServersOfEntries entries
  | _ => stunOnly

/-- What `mintIceServers` returns once the fetch is over; `res.ok` is a status in 200..299. -/
def iceServersOfFetch : FetchOutcome → IceServers
  | .failed => stunOnly
  | .response status body =>
    if 200 ≤ status ∧ status ≤ 299 then
      match body with
      | none => stunOnly
      | some data => iceServersOfData data
    else stunOnly

/-! ## Every answer has a STUN list -/

theorem iceServersOfEntries_stun (entries : List Json) :
    (iceServersOfEntries entries).stun = [cfStun] := by
  induction entries with
  | nil => rfl
  | cons entry rest ih =>
    unfold iceServersOfEntries
    split
    · rfl
    · exact ih
    · rfl

/-- **Minting never loses the STUN server**, whatever the TURN API answered: every way out of the
function, the `catch` included, names it. -/
theorem iceServersOfFetch_stun (res : FetchOutcome) : (iceServersOfFetch res).stun = [cfStun] := by
  unfold iceServersOfFetch iceServersOfData
  split
  · rfl
  · split
    · split
      · rfl
      · split
        · exact iceServersOfEntries_stun _
        · rfl
    · rfl

end Surveillance
