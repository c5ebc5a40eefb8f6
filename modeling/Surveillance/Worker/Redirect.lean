/-
# Where a login leads

After a login the page sets `location.href` to what `nextFor` returned, and the browser resolves
that against the page.  `nextFor` takes a target that starts with `/` and not with `//`, so that a
login never leaves the site; but the browser reads a backslash as a slash, and overlooks tabs and
newlines between the two.

So the test in `nextFor` and the browser's are about different texts.  The one looks at two
characters of the parameter as it was decoded; the other at the first character that is neither a
tab nor a newline, and at either of two separators.  `NetworkPath` is the second test, on the text
that the first one saw.

A network path may still name the page's own host, and then the login stays.  Which texts name it is
up to the host parser of the browser, so the parser is in the condition, as a parameter of it.

`redirect_stays_iff` is exact for every URL and every host parser.
-/
import Surveillance.Lib.UrlReference
import Surveillance.Worker.LoginPage

namespace Surveillance

namespace Worker

open Json (utf16)
open UrlReference (SlashRef HttpsOrigin NetworkPath resolve parseAuthority authorityOf)

/-! ## 1. The target as a reference

The value of `next` in the script is the text that the browser resolves. -/

theorem nextFor_slash (url : Url) : (nextFor url).head? = some 0x2F := by
  by_cases h : Taken (requested url)
  · rw [nextFor_of_taken h]
    obtain ⟨rest, hrest⟩ := List.isPrefixOf_iff_prefix.mp h.1
    rw [← hrest]
    rfl
  · rw [nextFor_of_not_taken h]
    rfl

/-- What the login page navigates to. -/
def nextRef (url : Url) : SlashRef := ⟨nextFor url, nextFor_slash url⟩

theorem not_networkPath_slash : ¬NetworkPath (utf16 "/") := by
  rintro ⟨gap, c, rest, heq, -, -⟩
  have hnil : gap ++ c :: rest = [] := (List.cons.inj heq).2.symm
  exact absurd hnil (by simp)

/-! ## 2. When it stays -/

/-- **A login stays on the site exactly when** the target that is asked for is not taken, is no
network path by the browser's reading, or names the site itself.  A target that is not taken is
replaced by `/`, which is none. -/
theorem redirect_stays_iff {Host : Type} (parseHost : JsString → Option Host)
    (own : HttpsOrigin Host) (url : Url) :
    resolve parseHost own (nextRef url) = some own ↔
      (Taken (requested url) → NetworkPath (requested url) →
        parseAuthority parseHost (authorityOf (requested url)) = some own) := by
  rw [UrlReference.resolve_eq_own_iff]
  have htext : (nextRef url).text = nextFor url := rfl
  rw [htext]
  by_cases h : Taken (requested url)
  · rw [nextFor_of_taken h]
    exact ⟨fun hstay _ => hstay, fun hstay => hstay h⟩
  · rw [nextFor_of_not_taken h]
    exact iff_of_true (fun hpath => absurd hpath not_networkPath_slash) fun ht => absurd ht h

/-- The host parser on names of letters in lower case, digits, `-` and `.`. -/
def parseName (name : JsString) : Option JsString :=
  if name.all fun c => (0x61 ≤ c && c ≤ 0x7A) || (0x30 ≤ c && c ≤ 0x39) || c == 0x2D || c == 0x2E
  then some name else none

/-- The login page of a link, with the value of its `next` parameter. -/
def loginLink (search next : String) : Url where
  protocol := utf16 "https:"
  host := utf16 "cam.example.org"
  pathname := utf16 "/"
  search := utf16 search
  searchParams := [(utf16 "next", utf16 next)]

/-- **A backslash, or a tab between two slashes, leads to another site.** -/
theorem redirect_leaves :
    resolve parseName ⟨utf16 "cam.example.org", none⟩
        (nextRef (loginLink "?next=/%5Cevil.example" "/\\evil.example")) =
      some ⟨utf16 "evil.example", none⟩ ∧
    resolve parseName ⟨utf16 "cam.example.org", none⟩
        (nextRef (loginLink "?next=/%09/evil.example" "/\t/evil.example")) =
      some ⟨utf16 "evil.example", none⟩ ∧
    utf16 "evil.example" ≠ utf16 "cam.example.org" := by
  decide +kernel

end Worker

end Surveillance
